/-
# Actions in step

Two actions that are given different things may still end alike: both in a value
or both in the same error, with values and states that are related. `Lockstep` says
so of two actions from any related states. Like `Ends` it is shown step by step,
along the way the actions are put together.
-/

namespace Hotspot

variable {ε ε' σ α β : Type} {R : σ → σ → Prop} {V : α → α → Prop} {W : β → β → Prop}

/-- Two results are alike: related values or the same error, and related states. -/
def ResultsAlike (R : σ → σ → Prop) (V : α → α → Prop) :
    EStateM.Result ε σ α → EStateM.Result ε σ α → Prop
  | .ok a s, .ok a' s' => V a a' ∧ R s s'
  | .error e s, .error e' s' => e = e' ∧ R s s'
  | _, _ => False

/-- Two actions that start in related states end alike. -/
def Lockstep (R : σ → σ → Prop) (V : α → α → Prop) (x x' : EStateM ε σ α) : Prop :=
  ∀ s s', R s s' → ResultsAlike R V (x s) (x' s')

namespace Lockstep

variable {x x' : EStateM ε σ α} {s s' : σ}

/-- The two ways in which two actions end alike. -/
theorem cases (h : Lockstep R V x x') (hR : R s s') :
    (∃ a t a' t', x s = .ok a t ∧ x' s' = .ok a' t' ∧ V a a' ∧ R t t') ∨
      ∃ e t t', x s = .error e t ∧ x' s' = .error e t' ∧ R t t' := by
  have hx := h s s' hR
  cases hs : x s with
  | ok a t =>
    cases hs' : x' s' with
    | ok a' t' =>
      rw [hs, hs'] at hx
      exact .inl ⟨a, t, a', t', rfl, rfl, hx⟩
    | error e' t' =>
      rw [hs, hs'] at hx
      exact hx.elim
  | error e t =>
    cases hs' : x' s' with
    | ok a' t' =>
      rw [hs, hs'] at hx
      exact hx.elim
    | error e' t' =>
      rw [hs, hs'] at hx
      obtain ⟨rfl, ht⟩ := hx
      exact .inr ⟨e, t, t', rfl, rfl, ht⟩

/-- An action is in step with itself. -/
theorem refl (x : EStateM ε σ α) : Lockstep (· = ·) (· = ·) x x := by
  rintro s _ rfl
  cases x s with
  | ok a t => exact ⟨rfl, rfl⟩
  | error e t => exact ⟨rfl, rfl⟩

/-- Values that belong together are given in states that do. -/
theorem pure {a a' : α} (h : V a a') :
    Lockstep R V (pure a : EStateM ε σ α) (pure a') :=
  fun _ _ hR => ⟨h, hR⟩

/-- One error on both sides keeps them in step. -/
theorem throw (e : ε) : Lockstep R V (throw e : EStateM ε σ α) (throw e) :=
  fun _ _ hR => ⟨rfl, hR⟩

/-- Both sides read their own state. -/
theorem get : Lockstep R R (get : EStateM ε σ σ) get :=
  fun _ _ hR => ⟨hR, hR⟩

/-- Both sides change their state, each in its own way, if the results still belong together. -/
theorem modify {m m' : σ → σ} (h : ∀ s s', R s s' → R (m s) (m' s')) :
    Lockstep R (· = ·) (modify m : EStateM ε σ Unit) (modify m') :=
  fun s s' hR => ⟨rfl, h s s' hR⟩

/-- Steps that are in step one after the other are so as a whole. -/
theorem bind {f f' : α → EStateM ε σ β} (hx : Lockstep R V x x')
    (hf : ∀ a a', V a a' → Lockstep R W (f a) (f' a')) : Lockstep R W (x >>= f) (x' >>= f') := by
  intro s s' hR
  show ResultsAlike R W (EStateM.bind x f s) (EStateM.bind x' f' s')
  rw [EStateM.bind, EStateM.bind]
  rcases hx.cases hR with ⟨a, t, a', t', hs, hs', ha, ht⟩ | ⟨e, t, t', hs, hs', ht⟩
  · rw [hs, hs']
    exact hf a a' ha t t' ht
  · rw [hs, hs']
    exact ⟨rfl, ht⟩

/-- Two actions that go on alike for the same value. -/
theorem bind_eq {f f' : α → EStateM ε σ β} (hx : Lockstep R (· = ·) x x')
    (hf : ∀ a, Lockstep R W (f a) (f' a)) : Lockstep R W (x >>= f) (x' >>= f') :=
  hx.bind fun a _ ha => ha ▸ hf a

/-- A failure comes on both sides or on none, so both are handled or neither is. -/
theorem tryCatch {handle handle' : ε → EStateM ε σ α} (hx : Lockstep R V x x')
    (hf : ∀ e, Lockstep R V (handle e) (handle' e)) :
    Lockstep R V (tryCatch x handle) (tryCatch x' handle') := by
  intro s s' hR
  show ResultsAlike R V (EStateM.tryCatch x handle s) (EStateM.tryCatch x' handle' s')
  delta EStateM.tryCatch
  rcases hx.cases hR with ⟨a, t, a', t', hs, hs', h⟩ | ⟨e, t, t', hs, hs', ht⟩
  · rw [hs, hs']
    exact h
  · rw [hs, hs']
    exact hf e t t' ht

/-- Errors that are the same have the same name afterwards. -/
theorem adaptExcept {wrap : ε → ε'} (h : Lockstep R V x x') :
    Lockstep R V (EStateM.adaptExcept wrap x) (EStateM.adaptExcept wrap x') := by
  intro s s' hR
  rw [EStateM.adaptExcept, EStateM.adaptExcept]
  rcases h.cases hR with ⟨a, t, a', t', hs, hs', h⟩ | ⟨e, t, t', hs, hs', ht⟩
  · rw [hs, hs']
    exact h
  · rw [hs, hs']
    exact ⟨rfl, ht⟩

end Lockstep
end Hotspot
