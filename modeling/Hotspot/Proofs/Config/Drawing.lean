/-
# What is drawn for a configuration

A configuration is made up from a number and a UUID, drawn in this order. If either
draw fails there is none, and nothing more is drawn.
-/

import Hotspot.Config.Generated
import Hotspot.Proofs.Outcome

namespace Hotspot
namespace Entropy

variable {e e' : Entropy}

/-- A number was drawn, and a UUID at most. What later draws give is the same. -/
structure Drew (e e' : Entropy) : Prop where
  suffix : e'.suffix = e.suffix
  uuid : e'.uuid = e.uuid
  suffixesDrawn : e'.suffixesDrawn = e.suffixesDrawn + 1
  uuidsDrawn : e'.uuidsDrawn = e.uuidsDrawn ∨ e'.uuidsDrawn = e.uuidsDrawn + 1

/-- The next number or the next UUID fails. -/
def FailsWith (e : Entropy) (message : Text) : Prop :=
  e.suffix e.suffixesDrawn = .error message ∨ e.uuid e.uuidsDrawn = .error message

/-- A configuration is that of the next number and the next UUID, and costs one of each. -/
theorem ends_generate (e : Entropy) (template : Text) (networkId : Int) :
    Ends (Config.generate template networkId) e
      (fun c e' => e.Drew e' ∧ ∃ suffix u, e.suffix e.suffixesDrawn = .ok suffix ∧
        e.uuid e.uuidsDrawn = .ok u ∧ c = Config.ofDraws template networkId suffix u ∧
        e' = { e with suffixesDrawn := e.suffixesDrawn + 1, uuidsDrawn := e.uuidsDrawn + 1 })
      (fun message e' => e.Drew e' ∧ e.FailsWith message) := by
  refine .bind (Q := fun suffix e₁ => e.suffix e.suffixesDrawn = .ok suffix ∧
    e₁ = { e with suffixesDrawn := e.suffixesDrawn + 1 }) (.get_bind (.set_bind ?_)) ?_
  · cases hsuffix : e.suffix e.suffixesDrawn with
    | ok i => exact .pure ⟨rfl, rfl⟩
    | error message => exact .throw ⟨⟨rfl, rfl, rfl, .inl rfl⟩, .inl hsuffix⟩
  rintro suffix _ ⟨hsuffix, rfl⟩
  refine .bind (Q := fun u e₂ => e.Drew e₂ ∧ e.uuid e.uuidsDrawn = .ok u ∧
    e₂ = { e with suffixesDrawn := e.suffixesDrawn + 1, uuidsDrawn := e.uuidsDrawn + 1 })
    (.get_bind (.set_bind ?_)) fun u e₂ h => .pure ⟨h.1, suffix, u, hsuffix, h.2.1, rfl, h.2.2⟩
  dsimp only
  cases huuid : e.uuid e.uuidsDrawn with
  | ok u => exact .pure ⟨⟨rfl, rfl, rfl, .inr rfl⟩, rfl, rfl⟩
  | error message => exact .throw ⟨⟨rfl, rfl, rfl, .inr rfl⟩, .inr huuid⟩

/-- What is generated is known from the next number and the next UUID. -/
theorem generate_of_draws {suffix : Int} {u : Uuid}
    (hsuffix : e.suffix e.suffixesDrawn = .ok suffix) (huuid : e.uuid e.uuidsDrawn = .ok u)
    (template : Text) (networkId : Int) : ∃ e', Config.generate template networkId e =
      .ok (Config.ofDraws template networkId suffix u) e' := by
  have hends := e.ends_generate template networkId
  cases hgenerate : Config.generate template networkId e with
  | ok c e' =>
    obtain ⟨-, suffix', u', hsuffix', huuid', rfl, -⟩ := hends.of_ok hgenerate
    obtain rfl := Except.ok.inj (hsuffix.symm.trans hsuffix')
    obtain rfl := Except.ok.inj (huuid.symm.trans huuid')
    exact ⟨e', rfl⟩
  | error message e' =>
    rcases (hends.of_error hgenerate).2 with hfails | hfails
    · cases hsuffix.symm.trans hfails
    · cases huuid.symm.trans hfails

end Entropy
end Hotspot
