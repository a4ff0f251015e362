/-
# How a command line is read

Tokens are read one after the other, a switch together with its value, and each adds to
the reading (`Form.Reads`). What that comes to is known part by part:

* switches before the word of a command are read as they are alone, and the command is
  handed what is behind its word;
* the name of the program is in no reading, so that `set` and `validate` read the same;
* a number that is given was read from a text, and so it can be written.

So a request does not depend on which of the two it is made to.
-/

import Hotspot.Proofs.CommandLine.Arguments
import Hotspot.Proofs.Config.Replacing
import Hotspot.Proofs.Text.Literals

namespace Hotspot
namespace CommandLine

variable {f : Form} {r r' r₁ : Reading} {ts more : List Token} {s : Switch} {t : Text}

/-! ## Readings -/

/-- A switch is handed a text: it is attached, or it is the next word. -/
inductive Hands : Attached → List Token → Text → List Token → Prop
  | equals (t : Text) (rest : List Token) : Hands (.equals t) rest t rest
  | run (t : Text) (rest : List Token) : Hands (.run t) rest t rest
  | word (t : Text) (rest : List Token) : Hands .nothing (.word t :: rest) t rest

/-- More tokens behind what was handed over are left there. -/
theorem Hands.append {a : Attached} {rest rest' : List Token} (h : Hands a rest t rest')
    (more : List Token) : Hands a (rest ++ more) t (rest' ++ more) := by
  cases h with
  | equals => exact .equals t _
  | run => exact .run t _
  | word => exact .word t _

/-- A form reads tokens, from one reading to another. -/
inductive Form.Reads (f : Form) : Reading → List Token → Reading → Prop
  | done (r : Reading) : f.Reads r [] r
  | word {r r' : Reading} {t : Text} {rest : List Token} : f.commands.isEmpty = true →
    f.Reads (r.leave t) rest r' → f.Reads r (.word t :: rest) r'
  | command {r : Reading} {t : Text} {rest : List Token} : f.commands.isEmpty = false →
    f.Reads r (.word t :: rest) { r with command := some (t, rest.map Token.argument) }
  | separator {r r' : Reading} {rest : List Token} : f.commands.isEmpty = true ∨ rest = [] →
    f.Reads (r.leave separatorText) rest r' → f.Reads r (.separator :: rest) r'
  | separated {r : Reading} {rest : List Token} : f.commands.isEmpty = false → rest ≠ [] →
    f.Reads r (.separator :: rest)
      { r with command := some (separatorText, rest.map Token.argument) }
  | unknown {r r' : Reading} {t : Text} {rest : List Token} :
    f.Reads (r.leave t) rest r' → f.Reads r (.unknown t :: rest) r'
  | value {r r₁ r' : Reading} {s : Switch} {a : Attached} {argument t : Text}
    {rest rest' : List Token} : s.kind.takesValue = true → Hands a rest t rest' →
    f.acceptText r s t = .ok r₁ → f.Reads r₁ rest' r' → f.Reads r (.switch s a argument :: rest) r'
  | flag {r r₁ r' : Reading} {s : Switch} {a : Attached} {argument : Text} {rest : List Token} :
    s.kind.takesValue = false → f.acceptFlag r s a = .ok r₁ → f.Reads r₁ rest r' →
    f.Reads r (.switch s a argument :: rest) r'

namespace Form

/-- What the relation reads the function reads, by induction on the reading. -/
theorem read_of_reads (h : f.Reads r ts r') : f.read r ts = .ok r' := by
  induction h with
  | done r => rw [read]
  | word hempty _ ih => rw [read, if_pos hempty, ih]
  | command hempty => rw [read, if_neg (by simp [hempty])]
  | separator hlast _ ih => rw [read, if_pos hlast, ih]
  | separated hempty hne => rw [read, if_neg (by simp [hempty, hne])]
  | unknown _ ih => rw [read, ih]
  | value htakes hhands haccept _ ih =>
    cases hhands with
    | equals => rw [read, if_pos htakes]; exact bind_eq_ok.2 ⟨_, haccept, ih⟩
    | run => rw [read, if_pos htakes]; exact bind_eq_ok.2 ⟨_, haccept, ih⟩
    | word => rw [read, if_pos htakes]; exact bind_eq_ok.2 ⟨_, haccept, ih⟩
  | flag htakes haccept _ ih =>
    rw [read.eq_def]
    dsimp only
    rw [if_neg (by simp [htakes])]
    exact bind_eq_ok.2 ⟨_, haccept, ih⟩

/-- And the other way round, by induction on the function. -/
theorem reads_of_read (h : f.read r ts = .ok r') : f.Reads r ts r' := by
  induction r, ts using Form.read.induct f with
  | case1 r =>
    rw [read] at h
    cases h
    exact .done _
  | case2 r t rest hempty ih =>
    rw [read, if_pos hempty] at h
    exact .word hempty (ih h)
  | case3 r t rest hempty =>
    rw [read, if_neg hempty] at h
    cases h
    exact .command (eq_false_of_ne_true hempty)
  | case4 r rest hlast ih =>
    rw [read, if_pos hlast] at h
    exact .separator hlast (ih h)
  | case5 r rest hlast =>
    rw [read, if_neg hlast] at h
    cases h
    obtain ⟨hempty, hne⟩ := not_or.1 hlast
    exact .separated (eq_false_of_ne_true hempty) hne
  | case6 r t rest ih =>
    rw [read] at h
    exact .unknown (ih h)
  | case7 r s argument htakes t rest ih =>
    rw [read, if_pos htakes] at h
    obtain ⟨r₁, haccept, h⟩ := bind_eq_ok.1 h
    exact .value htakes (.equals t rest) haccept (ih r₁ h)
  | case8 r s argument htakes t rest ih =>
    rw [read, if_pos htakes] at h
    obtain ⟨r₁, haccept, h⟩ := bind_eq_ok.1 h
    exact .value htakes (.run t rest) haccept (ih r₁ h)
  | case9 r s argument htakes t rest ih =>
    rw [read, if_pos htakes] at h
    obtain ⟨r₁, haccept, h⟩ := bind_eq_ok.1 h
    exact .value htakes (.word t rest) haccept (ih r₁ h)
  | case10 r s argument rest htakes hword =>
    rw [read.eq_def] at h
    dsimp only at h
    rw [if_pos htakes] at h
    cases rest with
    | nil => cases h
    | cons token rest =>
      cases token with
      | word t => exact (hword t rest rfl).elim
      | _ => cases h
  | case11 r s a argument rest htakes ih =>
    rw [read.eq_def] at h
    dsimp only at h
    rw [if_neg htakes] at h
    obtain ⟨r₁, haccept, h⟩ := bind_eq_ok.1 h
    exact .flag (eq_false_of_ne_true htakes) haccept (ih r₁ h)

/-- So the relation is what the function does where it succeeds. -/
theorem read_eq_ok : f.read r ts = .ok r' ↔ f.Reads r ts r' := ⟨reads_of_read, read_of_reads⟩

/-! ## What a switch adds -/

/-- A switch is accepted unless a rival was given or help is asked for, and joins what was
given. -/
theorem accept_eq_ok {value : Value} : f.accept r s value = .ok r' ↔
    f.rival? r s = none ∧ s.kind ≠ .help ∧ r' = { r with given := r.given ++ [(s, value)] } := by
  rw [accept]
  cases f.rival? r s with
  | some rival => simp
  | none =>
    dsimp only
    split
    · next hhelp => simp [hhelp]
    · next hhelp => simp [hhelp, eq_comm]

/-- A switch with a text is accepted with the value of the text. -/
theorem acceptText_eq_ok : f.acceptText r s t = .ok r' ↔
    ∃ v, s.value t = .ok v ∧ f.accept r s v = .ok r' := by
  rw [acceptText]
  simp only [bind_eq_ok, mapError_eq_ok]

/-- A switch adds to what is given: nothing with it, or what a text is read as. -/
def Adds (r r' : Reading) : Prop :=
  ∃ more : List (Switch × Value), r' = { r with given := r.given ++ more } ∧
    ∀ g ∈ more, g.2 = .nothing ∨ ∃ t, g.1.value t = .ok g.2

/-- Nothing was added. -/
theorem Adds.refl (r : Reading) : Adds r r := ⟨[], by rw [List.append_nil], by simp⟩

/-- What was added twice was added. -/
theorem Adds.trans (h : Adds r r₁) (h' : Adds r₁ r') : Adds r r' := by
  obtain ⟨more, rfl, hmore⟩ := h
  obtain ⟨more', rfl, hmore'⟩ := h'
  refine ⟨more ++ more', by rw [List.append_assoc], fun g hg => ?_⟩
  rcases List.mem_append.1 hg with hg | hg
  · exact hmore g hg
  · exact hmore' g hg

/-- Accepting a switch adds it. -/
theorem adds_of_accept {v : Value} (hv : v = .nothing ∨ ∃ t, s.value t = .ok v)
    (h : f.accept r s v = .ok r') : Adds r r' := by
  obtain ⟨-, -, rfl⟩ := accept_eq_ok.1 h
  refine ⟨[(s, v)], rfl, fun g hg => ?_⟩
  obtain rfl := List.mem_singleton.1 hg
  exact hv

/-- So does accepting it with a text. -/
theorem adds_of_acceptText (h : f.acceptText r s t = .ok r') : Adds r r' := by
  obtain ⟨v, hv, h⟩ := acceptText_eq_ok.1 h
  exact adds_of_accept (.inr ⟨t, hv⟩) h

/-- Accepting flags one after the other adds all of them. -/
theorem adds_of_foldlM {switches : List Switch}
    (h : switches.foldlM (fun r s => f.accept r s .nothing) r = .ok r') : Adds r r' := by
  induction switches generalizing r with
  | nil =>
    cases h
    exact .refl _
  | cons s switches ih =>
    rw [List.foldlM_cons] at h
    obtain ⟨r₁, haccept, h⟩ := bind_eq_ok.1 h
    exact (adds_of_accept (.inl rfl) haccept).trans (ih h)

/-- So does accepting the flags in one argument. -/
theorem adds_of_acceptFlag {a : Attached} (h : f.acceptFlag r s a = .ok r') : Adds r r' := by
  cases a with
  | nothing => exact adds_of_accept (.inl rfl) h
  | equals t => cases h
  | run t =>
    obtain ⟨others, -, h⟩ := bind_eq_ok.1 h
    exact adds_of_foldlM h

/-! ## The name of the program -/

/-- A form of another program. -/
def under (f : Form) (program : Text) : Form := { f with program }

/-- The name of the program is for messages: it has no part in what an argument splits into. -/
theorem flags_under (program : Text) : (f.under program).flags s t = f.flags s t := by
  induction t generalizing s with
  | nil => rfl
  | cons c rest ih =>
    have hflag : (f.under program).flag? c = f.flag? c := rfl
    rw [flags, flags, hflag]
    cases f.flag? c with
    | none => rfl
    | some next => simp only [ih]

/-- Nor in the tokens. -/
theorem tokens_under (program : Text) (arguments : List Text) :
    (f.under program).tokens arguments = f.tokens arguments := by
  induction arguments with
  | nil => rfl
  | cons t rest ih =>
    have htoken : (f.under program).token t = f.token t := rfl
    rw [tokens, tokens, htoken, ih]

/-- A switch that is accepted under one name is accepted under another. -/
theorem accept_under (program : Text) {v : Value} (h : f.accept r s v = .ok r') :
    (f.under program).accept r s v = .ok r' := by
  have haccept := accept_eq_ok.1 h
  exact accept_eq_ok.2 haccept

/-- So is one with a text. -/
theorem acceptText_under (program : Text) (h : f.acceptText r s t = .ok r') :
    (f.under program).acceptText r s t = .ok r' := by
  obtain ⟨v, hv, h⟩ := acceptText_eq_ok.1 h
  exact acceptText_eq_ok.2 ⟨v, hv, accept_under program h⟩

/-- So are flags one after the other. -/
theorem foldlM_under (program : Text) {switches : List Switch}
    (h : switches.foldlM (fun r s => f.accept r s .nothing) r = .ok r') :
    switches.foldlM (fun r s => (f.under program).accept r s .nothing) r = .ok r' := by
  induction switches generalizing r with
  | nil => exact h
  | cons s switches ih =>
    rw [List.foldlM_cons] at h ⊢
    obtain ⟨r₁, haccept, h⟩ := bind_eq_ok.1 h
    exact bind_eq_ok.2 ⟨r₁, accept_under program haccept, ih h⟩

/-- So are the flags in one argument. -/
theorem acceptFlag_under (program : Text) {a : Attached} (h : f.acceptFlag r s a = .ok r') :
    (f.under program).acceptFlag r s a = .ok r' := by
  cases a with
  | nothing => exact accept_under program h
  | equals t => cases h
  | run t =>
    obtain ⟨others, hothers, h⟩ := bind_eq_ok.1 h
    refine bind_eq_ok.2 ⟨others, mapError_eq_ok.2 ?_, foldlM_under program h⟩
    rw [flags_under]
    exact mapError_eq_ok.1 hothers

/-- A reading does not depend on the name of the program. -/
theorem Reads.under (h : f.Reads r ts r') (program : Text) : (f.under program).Reads r ts r' := by
  induction h with
  | done r => exact .done r
  | word hempty _ ih => exact .word hempty ih
  | command hempty => exact .command hempty
  | separator hlast _ ih => exact .separator hlast ih
  | separated hempty hne => exact .separated hempty hne
  | unknown _ ih => exact .unknown ih
  | value htakes hhands haccept _ ih =>
    exact .value htakes hhands (acceptText_under program haccept) ih
  | flag htakes haccept _ ih => exact .flag htakes (acceptFlag_under program haccept) ih

/-- A line is read if it has tokens and these are. -/
theorem reading_eq_ok {arguments : List Text} : f.reading arguments = .ok r ↔
    ∃ ts, f.tokens arguments = .ok ts ∧ f.Reads {} ts r := by
  rw [reading]
  simp only [bind_eq_ok, mapError_eq_ok, read_eq_ok]

/-- So a line that is read under one name is read under another. -/
theorem reading_under (program : Text) {arguments : List Text}
    (h : f.reading arguments = .ok r) : (f.under program).reading arguments = .ok r := by
  obtain ⟨ts, htokens, hreads⟩ := reading_eq_ok.1 h
  exact reading_eq_ok.2 ⟨ts, by rw [tokens_under, htokens], hreads.under program⟩

/-! ## Switches before a command -/

/-- What nothing takes is kept. -/
theorem Reads.leftover (h : f.Reads r ts r') : ∃ more, r'.leftover = r.leftover ++ more := by
  have hleave {r' : Reading} (r : Reading) (t : Text)
      (h : ∃ more, r'.leftover = (r.leave t).leftover ++ more) :
      ∃ more, r'.leftover = r.leftover ++ more := by
    obtain ⟨more, hmore⟩ := h
    exact ⟨t :: more, by rw [hmore, Reading.leave, List.append_assoc]; rfl⟩
  induction h with
  | done r => exact ⟨[], (List.append_nil _).symm⟩
  | word _ _ ih => exact hleave _ _ ih
  | command _ => exact ⟨[], (List.append_nil _).symm⟩
  | separator _ _ ih => exact hleave _ _ ih
  | separated _ _ => exact ⟨[], (List.append_nil _).symm⟩
  | unknown _ ih => exact hleave _ _ ih
  | value _ _ haccept _ ih =>
    obtain ⟨_, rfl, -⟩ := adds_of_acceptText haccept
    exact ih
  | flag _ haccept _ ih =>
    obtain ⟨_, rfl, -⟩ := adds_of_acceptFlag haccept
    exact ih

/-- What was left over once stays left over. -/
theorem leftover_ne_nil (h : f.Reads (r.leave t) ts r') : r'.leftover ≠ [] := by
  obtain ⟨more, hmore⟩ := h.leftover
  rw [hmore, Reading.leave]
  simp

/-- Where nothing is left and no command is reached there is no separator, and what comes
behind is read from there. -/
theorem Reads.append (h : f.Reads r ts r₁) (hleftover : r₁.leftover = [])
    (hcommand : r₁.command = none) : .separator ∉ ts ∧
      ∀ {more r'}, f.Reads r₁ more r' → f.Reads r (ts ++ more) r' := by
  induction h with
  | done r => exact ⟨List.not_mem_nil, fun h => h⟩
  | word _ hrest _ => exact absurd hleftover (leftover_ne_nil hrest)
  | command _ => cases hcommand
  | separator _ hrest _ => exact absurd hleftover (leftover_ne_nil hrest)
  | separated _ _ => cases hcommand
  | unknown hrest _ => exact absurd hleftover (leftover_ne_nil hrest)
  | value htakes hhands haccept _ ih =>
    obtain ⟨hnone, happend⟩ := ih hleftover hcommand
    refine ⟨?_, fun h => .value htakes (hhands.append _) haccept (happend h)⟩
    cases hhands with
    | equals => simp [hnone]
    | run => simp [hnone]
    | word => simp [hnone]
  | flag htakes haccept _ ih =>
    obtain ⟨hnone, happend⟩ := ih hleftover hcommand
    exact ⟨by simp [hnone], fun h => .flag htakes haccept (happend h)⟩

/-- Arguments before a separator are told into tokens one by one. -/
theorem tokens_append {before rest : List Text} {ts : List Token}
    (h : f.tokens before = .ok ts) (hnone : .separator ∉ ts) :
    f.tokens (before ++ rest) = (f.tokens rest).map (ts ++ ·) := by
  induction before generalizing ts with
  | nil =>
    cases h
    rw [List.nil_append]
    cases f.tokens rest <;> rfl
  | cons t before ih =>
    rw [tokens] at h
    split at h
    · cases h
      exact absurd List.mem_cons_self hnone
    · next ht =>
      obtain ⟨token, htoken, h⟩ := bind_eq_ok.1 h
      obtain ⟨others, hothers, h⟩ := bind_eq_ok.1 h
      cases h
      rw [List.cons_append, tokens, if_neg ht, htoken,
        ih hothers fun hmem => hnone (List.mem_cons_of_mem token hmem)]
      cases f.tokens rest <;> rfl

end Form

/-- **Switches before the word of a command are read as they are alone**, and what is behind
the word is handed to the command, if it is told into tokens. -/
theorem reading_command {given : List (Switch × Value)} {before rest : List Text} {v : Verb}
    (hbefore : programForm.reading before = .ok { given }) :
    programForm.reading (before ++ v.name :: rest) =
      ((programForm.tokens rest).mapError (.misuse program)).map fun _ =>
        { given, command := some (v.name, rest) } := by
  obtain ⟨ts, htokens, hreads⟩ := Form.reading_eq_ok.1 hbefore
  obtain ⟨hnone, happend⟩ := hreads.append rfl rfl
  have hname : v.name ≠ separatorText := by cases v <;> decide
  have hword : programForm.token v.name = .ok (.word v.name) := by cases v <;> rfl
  rw [Form.reading, Form.tokens_append htokens hnone, Form.tokens, if_neg hname, hword]
  cases hrest : programForm.tokens rest with
  | error fault => rfl
  | ok others =>
    have hcommand := Form.read_of_reads
      (happend (@Form.Reads.command programForm _ v.name others rfl))
    rw [arguments_of_tokens hrest] at hcommand
    exact hcommand

/-! ## Numbers -/

/-- The values that are given can be written, as far as they are numbers. -/
def Reading.IsWritable (r : Reading) : Prop :=
  ∀ g ∈ r.given, ∀ i, g.2 = .integer i → writable i = true

/-- A number that was read of a text can be shown, since its digits were counted. -/
theorem writable_of_value {i : Int} (h : s.value t = .ok (.integer i)) : writable i = true := by
  rw [Switch.value] at h
  split at h
  · cases h
  · split at h
    · split at h
      · next hi =>
        cases h
        exact Text.writable_of_toInt? hi
      · cases h
    · cases h

/-- So what is added by reading can be shown. -/
theorem isWritable_of_adds (h : Form.Adds r r') (hr : r.IsWritable) : r'.IsWritable := by
  obtain ⟨more, rfl, hmore⟩ := h
  intro g hg i hi
  rcases List.mem_append.1 hg with hg | hg
  · exact hr g hg i hi
  · rcases hmore g hg with hnothing | ⟨t, hvalue⟩
    · cases hnothing.symm.trans hi
    · rw [hi] at hvalue
      exact writable_of_value hvalue

/-- What is read can be written. -/
theorem isWritable_of_reads (h : f.Reads r ts r') (hr : r.IsWritable) : r'.IsWritable := by
  induction h with
  | done r => exact hr
  | word _ _ ih => exact ih hr
  | command _ => exact hr
  | separator _ _ ih => exact ih hr
  | separated _ _ => exact hr
  | unknown _ ih => exact ih hr
  | value _ _ haccept _ ih => exact ih (isWritable_of_adds (Form.adds_of_acceptText haccept) hr)
  | flag _ haccept _ ih => exact ih (isWritable_of_adds (Form.adds_of_acceptFlag haccept) hr)

/-! ## Invocations -/

/-- The invocation of a command behind switches that name files and the log level. -/
def Invocation.behind (given : List (Switch × Value)) (command : Command) : Invocation :=
  let r : Reading := { given }
  { configFile := r.text? Switch.configFile
    concurrencyFile := r.text? Switch.concurrencyFile
    overlayFile := r.text? Switch.overlayFile
    logLevel := r.text? Switch.logLevel
    command }

/-- Completing a reading adds nothing to it. -/
theorem eq_of_complete (h : f.complete r = .ok r') : r' = r := by
  rw [Form.complete] at h
  split at h
  · cases h
  · split at h
    · cases h
    · cases h
      rfl

/-- A command is read if its own form reads the rest and misses nothing. -/
theorem readCommand_eq_ok {v : Verb} {rest leftover : List Text} {command : Command} :
    readCommand v.name rest = .ok (command, leftover) ↔
      ∃ r, v.form.reading rest = .ok r ∧ v.form.complete r = .ok r ∧
        command = Command.ofReading r v ∧ leftover = r.leftover := by
  have hverb : Verb.ofName? v.name = some v := by cases v <;> rfl
  rw [readCommand, hverb]
  dsimp only
  simp only [bind_eq_ok, mapError_eq_ok]
  constructor
  · rintro ⟨r, hreading, r', hcomplete, h⟩
    obtain rfl := eq_of_complete hcomplete
    cases h
    exact ⟨r', hreading, hcomplete, rfl, rfl⟩
  · rintro ⟨r, hreading, hcomplete, rfl, rfl⟩
    exact ⟨r, hreading, r, hcomplete, rfl⟩

/-- Behind switches that are read, a line with the word of a command is read as the command is
read, and nothing may be left over. -/
theorem ofArguments_eq_ok {given : List (Switch × Value)} {before rest : List Text} {v : Verb}
    {i : Invocation} (hbefore : programForm.reading before = .ok { given }) :
    Invocation.ofArguments (before ++ v.name :: rest) = .ok i ↔
      (∃ ts, programForm.tokens rest = .ok ts) ∧ ∃ command,
        readCommand v.name rest = .ok (command, []) ∧ i = .behind given command := by
  rw [Invocation.ofArguments, reading_command hbefore]
  cases programForm.tokens rest with
  | error fault =>
    constructor
    · intro h
      cases h
    · rintro ⟨⟨ts, h⟩, -⟩
      cases h
  | ok ts =>
    show (readCommand v.name rest >>= fun a => _) = _ ↔ _
    rw [bind_eq_ok]
    constructor
    · rintro ⟨a, hread, h⟩
      dsimp only at h
      split at h
      · cases h
      · next hleftover =>
        cases h
        have hnone : a.2 = [] := by simpa using hleftover
        exact ⟨⟨ts, rfl⟩, a.1, by rw [← hnone]; exact hread, rfl⟩
    · rintro ⟨-, command, hread, rfl⟩
      exact ⟨(command, []), hread, rfl⟩

/-- The numbers of a request can be written. -/
def Request.IsWritable (request : Request) : Prop :=
  writable request.config.band = true ∧ writable request.config.channel = true

/-- A number of a reading whose numbers can be shown can be, and so can the zero where none was
given. -/
theorem isWritable_integer? (h : r.IsWritable) (s : Switch) :
    writable ((r.integer? s 0).getD 0) = true := by
  have hzero : writable 0 = true := Config.writable_of_fitsInt32 (by decide)
  rw [Reading.integer?]
  cases hvalue : r.value? s with
  | none => exact hzero
  | some v =>
    cases v with
    | nothing => exact hzero
    | text t => exact hzero
    | integer i =>
      obtain ⟨front, back, hgiven, -⟩ := List.lookup_eq_some_iff.1 hvalue
      have hmem : (s, Value.integer i) ∈ r.given := by
        rw [← List.mem_reverse, hgiven]
        simp
      exact h _ hmem i rfl

/-- **A request is the same, whether it is to be set or checked**, and so are the switches
before it, with which the active configuration can be shown just as well. -/
theorem ofArguments_of_set {given : List (Switch × Value)} {before rest : List Text}
    {i : Invocation} (hbefore : programForm.reading before = .ok { given })
    (hset : Invocation.ofArguments (before ++ Verb.set.name :: rest) = .ok i) :
    ∃ request : Request, i = .behind given (.set request) ∧ request.IsWritable ∧
      Invocation.ofArguments (before ++ Verb.validate.name :: rest) =
        .ok (.behind given (.validate request)) ∧
      Invocation.ofArguments (before ++ [Verb.view.name]) = .ok (.behind given (.view false)) := by
  obtain ⟨htokens, command, hread, rfl⟩ := (ofArguments_eq_ok hbefore).1 hset
  obtain ⟨r, hreading, hcomplete, rfl, hleftover⟩ := readCommand_eq_ok.1 hread
  have hform : Verb.validate.form = Verb.set.form.under (program ++ " " ++ Verb.validate.name) :=
    rfl
  have hchecked : Verb.validate.form.reading rest = .ok r := by
    rw [hform]
    exact Form.reading_under _ hreading
  have hview : readCommand Verb.view.name [] = .ok (.view false, []) := rfl
  obtain ⟨ts, -, hreads⟩ := Form.reading_eq_ok.1 hreading
  have hwritable : r.IsWritable := isWritable_of_reads hreads (by simp [Reading.IsWritable])
  refine ⟨Request.ofReading r, rfl, ?_, ?_, ?_⟩
  · exact ⟨isWritable_integer? hwritable Switch.band, isWritable_integer? hwritable Switch.channel⟩
  · exact (ofArguments_eq_ok hbefore).2
      ⟨htokens, _, readCommand_eq_ok.2 ⟨r, hchecked, hcomplete, rfl, hleftover⟩, rfl⟩
  · exact (ofArguments_eq_ok hbefore).2 ⟨⟨[], rfl⟩, _, hview, rfl⟩

end CommandLine
end Hotspot
