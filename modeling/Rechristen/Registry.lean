import Rechristen.Log.Event
import Rechristen.Name

/-!
# The registry of renames

The registry says what every renamed class is called now.  Registering `B → C` after `A → B` turns
the earlier entry into `A → C`, so the present name is always one look-up away.  A rename is refused
if the old name already leads elsewhere, or if another name already leads to the new one.
-/

namespace Rechristen

/-- A name and what it is called now. -/
structure Renaming where
  old : Name
  new : Name
  deriving DecidableEq, Repr

/-- The renames of a run, in the order in which their old names were first seen. -/
structure Registry where
  entries : List Renaming := []
  deriving DecidableEq, Repr

namespace Registry

/-- The entry of a key. -/
def find? (r : Registry) (key : Name.Key) : Option Renaming :=
  r.entries.find? fun e => e.old.key = key

/-- What a name is called now, if it was renamed. -/
def lookup (r : Registry) (name : Name) : Option Name :=
  (r.find? name.key).map Renaming.new

/-- What a name is called now. -/
def resolve (r : Registry) (name : Name) : Name :=
  match r.lookup name with
  | some new => if new.isEmpty then name.normalize else new
  | none => name.normalize

/-- Some name was renamed to this one. -/
def isTarget (r : Registry) (name : Name) : Bool :=
  r.entries.any fun e => e.new.key = name.key

/-- A name was renamed. -/
def contains (r : Registry) (name : Name) : Bool :=
  (r.find? name.key).isSome

/-- The number of entries. -/
def size (r : Registry) : Nat :=
  r.entries.length

/-- The entries as pairs of an old name and a new one. -/
def toList (r : Registry) : List (Name × Name) :=
  r.entries.map fun e => (e.old, e.new)

/-- One entry after `old` became `new`: one that led to `old` leads to `new`, and one that would now
lead to itself is dropped. -/
def advance (old new : Name) (e : Renaming) : Option Renaming :=
  if e.new.key = old.key then
    if e.old.key = new.key then none else some { e with new := new }
  else some e

/-- The entries with one more; an entry for the same key gives way to it. -/
def put (entries : List Renaming) (e : Renaming) : List Renaming :=
  if entries.any fun f => f.old.key = e.old.key then
    entries.map fun f => if f.old.key = e.old.key then e else f
  else entries ++ [e]

/-- The registry after `old` became `new`. -/
def record (r : Registry) (old new : Name) : Registry :=
  ⟨put (r.entries.filterMap (advance old new)) ⟨old, new⟩⟩

/-- What came of registering a rename. -/
inductive Verdict where
  /-- Old and new name differ at most in letter case; nothing is recorded. -/
  | identical
  /-- The old name already leads elsewhere. -/
  | alreadyRenamed (target : Name)
  /-- Another name already leads to the new one. -/
  | targetTaken (claimant : Name)
  /-- The rename is recorded. -/
  | recorded (registry : Registry)

/-- What registering `old → new` comes to, for names without leading separators. -/
def judge (r : Registry) (old new : Name) : Verdict :=
  if old.key = new.key then .identical
  else
    match (r.find? old.key).filter fun e => e.new.key ≠ new.key with
    | some e => .alreadyRenamed e.new
    | none =>
      match r.entries.find? fun e => e.old.key ≠ old.key && e.new.key = new.key with
      | some e => .targetTaken e.old
      | none => .recorded (r.record old new)

/-- Whether a rename is accepted. -/
def Verdict.accepted : Verdict → Bool
  | identical => true
  | alreadyRenamed _ => false
  | targetTaken _ => false
  | recorded _ => true

/-- The registry after a verdict. -/
def Verdict.registry (before : Registry) : Verdict → Registry
  | recorded registry => registry
  | _ => before

/-- What is reported of a verdict. -/
def Verdict.events (old new : Name) : Verdict → List Event
  | identical => []
  | alreadyRenamed target =>
    [⟨.warning, "rename_rejected",
      [("reason", .text "already_renamed"), ("old_fqn", .text old), ("new_fqn", .text new),
        ("existing_target", .text target)]⟩]
  | targetTaken claimant =>
    [⟨.warning, "rename_rejected",
      [("reason", .text "target_taken"), ("old_fqn", .text old), ("new_fqn", .text new),
        ("claimed_by", .text claimant)]⟩]
  | recorded _ =>
    [⟨.debug, "rename_registered", [("old_fqn", .text old), ("new_fqn", .text new)]⟩]

/-- A registration: whether it was accepted, the registry after it and what is reported. -/
structure Registration where
  accepted : Bool
  registry : Registry
  events : List Event

/-- Register a rename. -/
def register (r : Registry) (old new : Name) : Registration :=
  let verdict := r.judge old.normalize new.normalize
  ⟨verdict.accepted, verdict.registry r, verdict.events old.normalize new.normalize⟩

/-- The registry in one line. -/
def render (r : Registry) : String :=
  "RenameRegistry(entries=" ++ toString r.size ++ ")"

end Registry

end Rechristen
