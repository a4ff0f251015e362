/-
# What a check tells

Whoever has a configuration checked is told of the first rule that it breaks, and the log
is told of the same. All the ways to ask give one answer:

| asked for | answer |
| --- | --- |
| the first rule broken | the first of all rules, in their order |
| acceptable or not | whether there is none |
| what is wrong with it | the first of the name group, then the first of the security group |

The band, the channel and the network identifier have no part in it, and no check fails.
-/

import Hotspot.Proofs.Config.Rules
import Hotspot.Store.Basic

namespace Hotspot
namespace Store

/-- A record tells of a broken rule: at the level of debugging, with the names of the rule and
of the field that breaks it, and with nothing else. -/
structure Tells (r : Log.Record) (v : Config.Violation) : Prop where
  level : r.level = Log.Level.debug
  extras : r.extras = [(Text.ofString "field", Log.Value.text v.field),
    (Text.ofString "rule", Log.Value.text v.rule.name)]

/-- What is logged of a check: nothing of a configuration that is let through, and one record
of another one. -/
theorem check_apply (c : Config) (w : World) :
    (c.check = none → check c w = .ok none w) ∧
      ∀ v, c.check = some v → ∃ r, Tells r v ∧
        check c w = .ok (some v) { w with records := w.records ++ [r] } := by
  have hcheck : check c w = .ok c.check
      { w with records := w.records ++ c.check.toList.map Config.Violation.record } := rfl
  constructor
  · intro h
    rw [hcheck, h, Option.toList_none, List.map_nil, List.append_nil]
  · intro v h
    rw [hcheck, h]
    exact ⟨v.record, ⟨rfl, rfl⟩, rfl⟩

/-- **A check tells the first rule that is broken.** A configuration is let through exactly
if it has a name of 1 to 32 bytes without surrogates and is either open, without a key, or
protected by one of 8 to 63 bytes without surrogates. Otherwise the first rule that it
breaks is told, in the order of the rules; so it is where both groups are looked at, and in
the log. -/
theorem check_tells_first (c : Config) :
    (c.check = none ↔ c.Acceptable) ∧
    c.check.map Config.Violation.rule = Config.Rule.order.find? (fun r => c.Breaks r) ∧
    (c.isAcceptable = true ↔ c.check = none) ∧
    c.violations.map Config.Violation.rule =
      (Config.Rule.ofName.find? fun r => c.Breaks r).toList ++
        (Config.Rule.ofSecurity.find? fun r => c.Breaks r).toList ∧
    c.check = c.violations.head? ∧
    (∀ band channel networkId, Config.check { c with band, channel, networkId } = c.check) ∧
    ∀ w, (c.check = none → check c w = .ok none w) ∧
      ∀ v, c.check = some v → ∃ r, Tells r v ∧
        check c w = .ok (some v) { w with records := w.records ++ [r] } :=
  ⟨Config.check_eq_none_iff_acceptable, Config.rule_check c, Option.isNone_iff_eq_none,
    Config.rule_violations c, Config.check_eq_head?_violations c, fun _ _ _ => rfl, check_apply c⟩

end Store
end Hotspot
