import Rechristen.Attempt

/-!
# Taking attempts apart

An attempt made of parts succeeds only if every part does.  Each lemma names the parts of one
combinator, so that a proof about an operation goes through its steps in their order.

Some failures are worse than others.  An attempt is *calm* if it does not fail because edits
overlap, and an attempt made of calm parts is calm.  Since an attempt that fails leaves a state
behind, what holds of the state is carried along in either case.
-/

namespace Rechristen

/-- The cause is an edit that overlaps another one. -/
def Failure.isConflict : Failure → Bool
  | editConflict _ _ _ => true
  | _ => false

namespace Attempt

variable {σ τ α β γ : Type}

theorem success_eq {a b : α} {s t : σ} (hsuccess : success a s = ⟨.ok b, t⟩) : a = b ∧ s = t := by
  simpa [success] using hsuccess

theorem failure_ne {cause : Failure} {b : α} {s t : σ} :
    (failure cause s : Attempt σ α) ≠ ⟨.ok b, t⟩ := by
  simp [failure]

theorem failure_eq {cause other : Failure} {s t : σ}
    (hfailure : (failure cause s : Attempt σ α) = ⟨.error other, t⟩) : cause = other ∧ s = t := by
  simpa [failure] using hfailure

theorem success_ne {a : α} {cause : Failure} {s t : σ} : success a s ≠ ⟨.error cause, t⟩ := by
  simp [success]

/-- A sequence succeeds if its first part does and the rest, from where the first part left. -/
theorem andThen_ok {a : Attempt σ α} {f : α → σ → Attempt σ β} {b : β} {t : σ}
    (hthen : a.andThen f = ⟨.ok b, t⟩) :
    ∃ x s, a = ⟨.ok x, s⟩ ∧ f x s = ⟨.ok b, t⟩ := by
  obtain ⟨result, s⟩ := a
  cases result with
  | error cause => simp [andThen] at hthen
  | ok x => exact ⟨x, s, rfl, hthen⟩

theorem into_ok {a : Attempt σ α} {f : σ → τ} {x : α} {t : τ} (hinto : a.into f = ⟨.ok x, t⟩) :
    ∃ s, a = ⟨.ok x, s⟩ ∧ f s = t := by
  obtain ⟨result, s⟩ := a
  simp only [into, mk.injEq] at hinto
  exact ⟨s, by rw [hinto.1], hinto.2⟩

theorem map_ok {a : Attempt σ α} {f : α → β} {b : β} {t : σ} (hmap : a.map f = ⟨.ok b, t⟩) :
    ∃ x, a = ⟨.ok x, t⟩ ∧ f x = b := by
  obtain ⟨result, s⟩ := a
  cases result with
  | error cause => simp [map, Except.map] at hmap
  | ok x =>
      simp only [map, Except.map, mk.injEq, Except.ok.injEq] at hmap
      exact ⟨x, by rw [hmap.2], hmap.1⟩

theorem andThen_assoc (a : Attempt σ α) (f : α → σ → Attempt σ β) (g : β → σ → Attempt σ γ) :
    (a.andThen f).andThen g = a.andThen fun x s => (f x s).andThen g := by
  obtain ⟨result, s⟩ := a
  cases result with
  | error cause => rfl
  | ok x => rfl

theorem andThen_map (a : Attempt σ α) (f : α → β) (g : β → σ → Attempt σ γ) :
    (a.map f).andThen g = a.andThen fun x s => g (f x) s := by
  obtain ⟨result, s⟩ := a
  cases result with
  | error cause => rfl
  | ok x => rfl

theorem map_andThen (a : Attempt σ α) (f : α → σ → Attempt σ β) (g : β → γ) :
    (a.andThen f).map g = a.andThen fun x s => (f x s).map g := by
  obtain ⟨result, s⟩ := a
  cases result with
  | error cause => rfl
  | ok x => rfl

theorem map_map (a : Attempt σ α) (f : α → β) (g : β → γ) :
    (a.map f).map g = a.map fun x => g (f x) := by
  obtain ⟨result, s⟩ := a
  cases result with
  | error cause => rfl
  | ok x => rfl

theorem andThen_eq_map (a : Attempt σ α) (f : α → β) :
    (a.andThen fun x s => success (f x) s) = a.map f := by
  obtain ⟨result, s⟩ := a
  cases result with
  | error cause => rfl
  | ok x => rfl

theorem map_success (x : α) (s : σ) (f : α → β) : (success x s).map f = success (f x) s := rfl

/-- A sequence fails with its first part, or that succeeds and the rest fails. -/
theorem andThen_error {a : Attempt σ α} {f : α → σ → Attempt σ β} {cause : Failure} {t : σ}
    (hthen : a.andThen f = ⟨.error cause, t⟩) :
    a = ⟨.error cause, t⟩ ∨ ∃ x s, a = ⟨.ok x, s⟩ ∧ f x s = ⟨.error cause, t⟩ := by
  obtain ⟨result, s⟩ := a
  cases result with
  | error other =>
      simp only [andThen, mk.injEq, Except.error.injEq] at hthen
      exact Or.inl (by rw [hthen.1, hthen.2])
  | ok x => exact Or.inr ⟨x, s, rfl, hthen⟩

/-- A sequence whose rest always succeeds fails with its first part. -/
theorem andThen_success_error_iff {a : Attempt σ α} {value : β} {g : σ → σ} {cause : Failure}
    {t : σ} :
    (a.andThen fun _ s => success value (g s)) = ⟨.error cause, t⟩ ↔ a = ⟨.error cause, t⟩ := by
  constructor
  · intro hthen
    rcases andThen_error hthen with hfirst | ⟨x, s, -, hrest⟩
    · exact hfirst
    · exact absurd hrest success_ne
  · rintro rfl
    rfl

theorem into_error {a : Attempt σ α} {f : σ → τ} {cause : Failure} {t : τ}
    (hinto : a.into f = ⟨.error cause, t⟩) : ∃ s, a = ⟨.error cause, s⟩ ∧ f s = t := by
  obtain ⟨result, s⟩ := a
  simp only [into, mk.injEq] at hinto
  exact ⟨s, by rw [hinto.1], hinto.2⟩

theorem map_error {a : Attempt σ α} {f : α → β} {cause : Failure} {t : σ}
    (hmap : a.map f = ⟨.error cause, t⟩) : a = ⟨.error cause, t⟩ := by
  obtain ⟨result, s⟩ := a
  cases result with
  | error other =>
      simp only [map, Except.map, mk.injEq, Except.error.injEq] at hmap
      rw [hmap.1, hmap.2]
  | ok x => simp [map, Except.map] at hmap

/-- An attempt that does not fail has a value. -/
theorem exists_ok {a : Attempt σ α} (hok : a.failure? = none) : ∃ x, a = ⟨.ok x, a.state⟩ := by
  obtain ⟨result, s⟩ := a
  cases result with
  | error cause => simp [failure?] at hok
  | ok x => exact ⟨x, rfl⟩

/-- The same with a state in two parts. -/
theorem exists_ok_pair {a : Attempt (σ × τ) α} (hok : a.failure? = none) :
    ∃ x, a = ⟨.ok x, (a.state.1, a.state.2)⟩ :=
  exists_ok hok

theorem eq_of_result {a : Attempt σ α} {value : α} (hok : a.result = .ok value) :
    a = ⟨.ok value, a.state⟩ := by
  obtain ⟨result, s⟩ := a
  obtain rfl : result = .ok value := hok
  rfl

theorem eq_error {a : Attempt σ α} {cause : Failure} (hfailed : a.failure? = some cause) :
    a = ⟨.error cause, a.state⟩ := by
  obtain ⟨result, s⟩ := a
  cases result with
  | error other => rw [Option.some.inj hfailed]
  | ok x => simp [failure?] at hfailed

/-- What holds of the state after the first part and is kept by the second holds in the end, whether
or not the parts succeed. -/
theorem state_andThen (good : σ → Prop) {a : Attempt σ α} {f : α → σ → Attempt σ β}
    (ha : good a.state) (hf : ∀ value state, good state → good (f value state).state) :
    good (a.andThen f).state := by
  obtain ⟨result, state⟩ := a
  cases result with
  | error cause => exact ha
  | ok value => exact hf value state ha

/-! ## Attempts without conflicts -/

/-- The attempt failed because edits overlap. -/
def conflicts (a : Attempt σ α) : Bool :=
  a.failure?.any Failure.isConflict

theorem conflicts_iff {a : Attempt σ α} :
    a.conflicts = true ↔ ∃ cause t, cause.isConflict = true ∧ a = ⟨.error cause, t⟩ := by
  obtain ⟨result, s⟩ := a
  cases result with
  | ok value => simp [conflicts, failure?]
  | error cause => simp [conflicts, failure?]

/-- The attempt does not fail because edits overlap, and the state it leaves behind is good. -/
structure Calm (good : σ → Prop) (a : Attempt σ α) : Prop where
  left : good a.state
  calm : a.conflicts = false

namespace Calm

variable {good : σ → Prop} {good' : τ → Prop}

theorem success {value : α} {state : σ} (hstate : good state) : Calm good (success value state) :=
  ⟨hstate, rfl⟩

theorem failure {cause : Failure} {state : σ} (hstate : good state)
    (hcause : cause.isConflict = false) : Calm good (failure cause state : Attempt σ α) :=
  ⟨hstate, hcause⟩

theorem andThen {a : Attempt σ α} {f : α → σ → Attempt σ β} (ha : Calm good a)
    (hf : ∀ value state, good state → Calm good (f value state)) : Calm good (a.andThen f) := by
  obtain ⟨result, state⟩ := a
  cases result with
  | error cause => exact ⟨ha.left, ha.calm⟩
  | ok value => exact hf value state ha.left

theorem map {a : Attempt σ α} (ha : Calm good a) (f : α → β) : Calm good (a.map f) := by
  obtain ⟨result, state⟩ := a
  cases result with
  | error cause => exact ⟨ha.left, ha.calm⟩
  | ok value => exact ⟨ha.left, rfl⟩

theorem into {a : Attempt σ α} (ha : Calm good a) {f : σ → τ}
    (hf : ∀ state, good state → good' (f state)) : Calm good' (a.into f) :=
  ⟨hf a.state ha.left, ha.calm⟩

end Calm

end Attempt

end Rechristen
