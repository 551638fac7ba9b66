import Rechristen.Failure

/-!
# Attempts

An operation that works on a state may fail half-way.  What it changed before it failed stays
changed, so the state after an attempt is there in either case.
-/

namespace Rechristen

/-- The result of an operation and the state it leaves behind. -/
structure Attempt (σ α : Type) where
  result : Except Failure α
  state : σ

namespace Attempt

variable {σ τ α β : Type}

/-- An operation that succeeds. -/
def success (value : α) (state : σ) : Attempt σ α :=
  ⟨.ok value, state⟩

/-- An operation that fails. -/
def failure (cause : Failure) (state : σ) : Attempt σ α :=
  ⟨.error cause, state⟩

/-- Go on from a success; a failure ends all. -/
def andThen (a : Attempt σ α) (f : α → σ → Attempt σ β) : Attempt σ β :=
  match a.result with
  | .ok value => f value a.state
  | .error cause => ⟨.error cause, a.state⟩

/-- The same attempt with another value. -/
def map (f : α → β) (a : Attempt σ α) : Attempt σ β :=
  ⟨a.result.map f, a.state⟩

/-- The same attempt as part of a larger state. -/
def into (f : σ → τ) (a : Attempt σ α) : Attempt τ α :=
  ⟨a.result, f a.state⟩

@[simp] theorem andThen_success (value : α) (state : σ) (f : α → σ → Attempt σ β) :
    (success value state).andThen f = f value state := rfl

@[simp] theorem andThen_failure (cause : Failure) (state : σ) (f : α → σ → Attempt σ β) :
    (failure cause state : Attempt σ α).andThen f = failure cause state := rfl

/-- The failure of an attempt, if it failed. -/
def failure? (a : Attempt σ α) : Option Failure :=
  match a.result with
  | .ok _ => none
  | .error cause => some cause

end Attempt

end Rechristen
