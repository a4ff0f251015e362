/-
# Outcomes of actions

An action changes a state and gives a value or fails, and keeps what it has done
up to there. `Ends` says what holds afterwards in either case. It is shown of an
action step by step, along the way the action is put together.
-/

namespace Hotspot

variable {ε σ α β : Type} {x : EStateM ε σ α} {f : α → EStateM ε σ β} {s : σ}
  {Q : α → σ → Prop} {E : ε → σ → Prop}

/-- An action ends in a value and a state of one kind, or in an error and a state of
another. -/
def Ends (x : EStateM ε σ α) (s : σ) (Q : α → σ → Prop) (E : ε → σ → Prop) : Prop :=
  match x s with
  | .ok a s' => Q a s'
  | .error e s' => E e s'

instance [∀ a s, Decidable (Q a s)] [∀ e s, Decidable (E e s)] : Decidable (Ends x s Q E) :=
  match h : x s with
  | .ok a s' => decidable_of_iff (Q a s') (by rw [Ends, h])
  | .error e s' => decidable_of_iff (E e s') (by rw [Ends, h])

namespace Ends

/-- Either end for itself: what is known of every value, and what of every error. -/
theorem iff_forall :
    Ends x s Q E ↔ (∀ a s', x s = .ok a s' → Q a s') ∧ ∀ e s', x s = .error e s' → E e s' := by
  rw [Ends]
  cases x s with
  | ok a s' => simp
  | error e s' => simp

/-- What is known of an action holds of the value it is seen to end in. -/
theorem of_ok (h : Ends x s Q E) {a : α} {s' : σ} (hx : x s = .ok a s') : Q a s' :=
  (iff_forall.1 h).1 a s' hx

/-- It holds of the error, too. -/
theorem of_error (h : Ends x s Q E) {e : ε} {s' : σ} (hx : x s = .error e s') : E e s' :=
  (iff_forall.1 h).2 e s' hx

/-- An action that is known to end in a value ends as the value and the state do. -/
theorem of_eq_ok {a : α} {s' : σ} (hx : x s = .ok a s') (h : Q a s') : Ends x s Q E := by
  rwa [Ends, hx]

/-- The same for an action that is known to fail. -/
theorem of_eq_error {e : ε} {s' : σ} (hx : x s = .error e s') (h : E e s') : Ends x s Q E := by
  rwa [Ends, hx]

/-- An action that cannot fail has a value to speak of. -/
theorem exists_ok (h : Ends x s Q fun _ _ => False) : ∃ a s', x s = .ok a s' ∧ Q a s' := by
  cases hx : x s with
  | ok a s' => exact ⟨a, s', rfl, h.of_ok hx⟩
  | error e s' => exact (h.of_error hx).elim

/-- An action ends in some way. -/
theorem any : Ends x s (fun _ _ => True) (fun _ _ => True) :=
  iff_forall.2 ⟨fun _ _ _ => trivial, fun _ _ _ => trivial⟩

/-- An action ends as it does. -/
theorem result : Ends x s (fun a s' => x s = .ok a s') (fun e s' => x s = .error e s') :=
  iff_forall.2 ⟨fun _ _ h => h, fun _ _ h => h⟩

/-- What follows from the one end and from the other may stand in their place. -/
theorem mono {Q' : α → σ → Prop} {E' : ε → σ → Prop} (h : Ends x s Q E)
    (hQ : ∀ a s', Q a s' → Q' a s') (hE : ∀ e s', E e s' → E' e s') : Ends x s Q' E' :=
  iff_forall.2 ⟨fun a s' hx => hQ a s' (h.of_ok hx), fun e s' hx => hE e s' (h.of_error hx)⟩

/-- Two things that are known of an action are known at once. -/
theorem and {Q' : α → σ → Prop} {E' : ε → σ → Prop} (h : Ends x s Q E) (h' : Ends x s Q' E') :
    Ends x s (fun a s' => Q a s' ∧ Q' a s') (fun e s' => E e s' ∧ E' e s') :=
  iff_forall.2 ⟨fun _ _ hx => ⟨h.of_ok hx, h'.of_ok hx⟩,
    fun _ _ hx => ⟨h.of_error hx, h'.of_error hx⟩⟩

/-- A value is given in the state that there is. -/
theorem pure {a : α} (h : Q a s) : Ends (pure a) s Q E := h

/-- A failure leaves the state as it is. -/
theorem throw {e : ε} (h : E e s) : Ends (throw e) s Q E := h

/-- What follows a change of the state starts in the changed one. -/
theorem modify_bind {m : σ → σ} {f : PUnit → EStateM ε σ α} (h : Ends (f ⟨⟩) (m s) Q E) :
    Ends (modify m >>= f) s Q E := h

/-- A change of the state ends in the changed one. -/
theorem modify {m : σ → σ} {Q : Unit → σ → Prop} (h : Q () (m s)) : Ends (modify m) s Q E := h

/-- An action and what follows it: the second has to be shown wherever the first may end, and a
failure of the first is one of both. -/
theorem bind {Q' : β → σ → Prop} (hx : Ends x s Q E) (hf : ∀ a s', Q a s' → Ends (f a) s' Q' E) :
    Ends (x >>= f) s Q' E := by
  show Ends (EStateM.bind x f) s Q' E
  rw [Ends, EStateM.bind]
  cases h : x s with
  | ok a s' => exact hf a s' (hx.of_ok h)
  | error e s' => exact hx.of_error h

/-- Reading the state hands it on. -/
theorem get_bind {f : σ → EStateM ε σ α} (h : Ends (f s) s Q E) : Ends (get >>= f) s Q E := h

/-- Reading the state leaves it as it is. -/
theorem get {Q : σ → σ → Prop} (h : Q s s) : Ends get s Q E := h

/-- A value that is given at once goes into what follows. -/
theorem pure_bind {f : β → EStateM ε σ α} {b : β} (h : Ends (f b) s Q E) :
    Ends (Pure.pure b >>= f) s Q E := h

/-- Nothing follows a failure. -/
theorem throw_bind {f : β → EStateM ε σ α} {e : ε} (h : E e s) :
    Ends (MonadExcept.throw e >>= f) s Q E := h

/-- A new state is where what follows starts. -/
theorem set_bind {s' : σ} {f : PUnit → EStateM ε σ α} (h : Ends (f ⟨⟩) s' Q E) :
    Ends (set s' >>= f) s Q E := h

/-- A failure is the start of its handling, in the state in which it came. -/
theorem tryCatch {E' : ε → σ → Prop} {handle : ε → EStateM ε σ α} (hx : Ends x s Q E)
    (hf : ∀ e s', E e s' → Ends (handle e) s' Q E') : Ends (tryCatch x handle) s Q E' := by
  show Ends (EStateM.tryCatch x handle) s Q E'
  rw [Ends]
  delta EStateM.tryCatch
  cases h : x s with
  | ok a s' => exact hx.of_ok h
  | error e s' => exact hf e s' (hx.of_error h)

/-- Giving another name to the error changes neither value nor state. -/
theorem adaptExcept {ε' : Type} {wrap : ε → ε'} {E : ε' → σ → Prop}
    (h : Ends x s Q fun e => E (wrap e)) : Ends (EStateM.adaptExcept wrap x) s Q E := by
  rw [Ends, EStateM.adaptExcept]
  cases hx : x s with
  | ok a s' => exact h.of_ok hx
  | error e s' => exact h.of_error hx

end Ends

-- an outcome is reasoned about with the lemmas above; it is not to be computed by unfolding
attribute [irreducible] Ends

/-- An action ends in a value. -/
def Succeeds (x : EStateM ε σ α) (s : σ) : Prop :=
  ∃ a s', x s = .ok a s'

namespace Succeeds

/-- Giving a value cannot fail. -/
theorem pure {a : α} : Succeeds (Pure.pure a : EStateM ε σ α) s := ⟨a, s, rfl⟩

/-- Reading the state cannot be what fails. -/
theorem get_bind_iff {f : σ → EStateM ε σ α} : Succeeds (get >>= f) s ↔ Succeeds (f s) s := Iff.rfl

/-- Of two actions one after the other, the second one starts where the first one ends. -/
theorem bind_iff : Succeeds (x >>= f) s ↔ ∃ a s', x s = .ok a s' ∧ Succeeds (f a) s' := by
  have hbind : (x >>= f) s = EStateM.bind x f s := rfl
  rw [Succeeds, hbind, EStateM.bind]
  cases hx : x s with
  | ok a s' =>
    constructor
    · exact fun h => ⟨a, s', rfl, h⟩
    · rintro ⟨_, _, h, hf⟩
      cases h
      exact hf
  | error e s' =>
    constructor
    · rintro ⟨_, _, h⟩
      cases h
    · rintro ⟨_, _, h, -⟩
      cases h

end Succeeds

/-! ## What an action ends in -/

/-- Two actions one after the other end in a value where both do. -/
theorem run_bind_eq_ok {b : β} {s'' : σ} :
    (x >>= f) s = .ok b s'' ↔ ∃ a s', x s = .ok a s' ∧ f a s' = .ok b s'' := by
  have hbind : (x >>= f) s = EStateM.bind x f s := rfl
  rw [hbind, EStateM.bind]
  cases hx : x s with
  | ok a s' =>
    constructor
    · exact fun h => ⟨a, s', rfl, h⟩
    · rintro ⟨_, _, h, hf⟩
      cases h
      exact hf
  | error e s' =>
    constructor
    · intro h
      cases h
    · rintro ⟨_, _, h, -⟩
      cases h

/-- An action whose failures are handed on ends in a value where it does so itself. -/
theorem run_tryCatch_eq_ok {handle : ε → EStateM ε σ α} {a : α} {s' : σ}
    (hhandle : ∀ e t, Ends (handle e) t (fun _ _ => False) fun _ _ => True) :
    tryCatch x handle s = .ok a s' ↔ x s = .ok a s' := by
  have htry : tryCatch x handle s = EStateM.tryCatch x handle s := rfl
  rw [htry]
  delta EStateM.tryCatch
  cases hx : x s with
  | ok a t => exact Iff.rfl
  | error e t =>
    refine iff_of_false (fun h => (hhandle e t).of_ok h) ?_
    rintro ⟨⟩

/-! ## Results without a state -/

/-- Two results one after the other are a value where both are. -/
theorem bind_eq_ok {x : Except ε α} {f : α → Except ε β} {b : β} :
    (x >>= f) = .ok b ↔ ∃ a, x = .ok a ∧ f a = .ok b := by
  cases x <;> simp [bind, Except.bind]

/-- Another wording of the error has no part in a value. -/
theorem mapError_eq_ok {x : Except ε α} {ε' : Type} {wording : ε → ε'} {a : α} :
    x.mapError wording = .ok a ↔ x = .ok a := by
  cases x with
  | ok b =>
    constructor
    all_goals
      intro h
      cases h
      rfl
  | error e =>
    constructor
    all_goals
      intro h
      cases h

/-- They fail where the first one does, or else the second one. -/
theorem bind_eq_error {x : Except ε α} {f : α → Except ε β} {e : ε} :
    (x >>= f) = .error e ↔ x = .error e ∨ ∃ a, x = .ok a ∧ f a = .error e := by
  cases x <;> simp [bind, Except.bind]

end Hotspot
