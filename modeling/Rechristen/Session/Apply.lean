import Rechristen.Session.LocalReferences

/-!
# Renaming a declaration

A verdict of a policy is carried out in steps: the new name is claimed, the declaration gets it, the
table is brought up to date, the references of the file follow if the policy is eager, and the file
is planned to follow.  A step that fails ends the renaming; what was done before it stays.
-/

namespace Rechristen

namespace Session

/-- A name a declaration was refused, and why. -/
def refusal (p : Policy) (d : Declaration) (new : Name) (reason : String) : Diagnostic where
  rule := p.name
  message := "Cannot rename " ++ d.name ++ " to " ++ new ++ ": " ++ reason
  path := some d.path
  line := d.line

/-- What is reported when another declaration has the new name. -/
def collisionEvent (p : Policy) (old new : Name) : Event :=
  ⟨.warning, "rename_collision",
    [("policy", .text p.name), ("old_fqn", .text old), ("new_fqn", .text new)]⟩

/-- Claim a new name for a declaration: no other declaration may have it, and the registry has to
accept the rename. -/
def claim (s : Session) (id : DeclarationId) (d : Declaration) (new : Name) (p : Policy) :
    Bool × Session :=
  match s.table.rival? new id with
  | some owner =>
    (false, (s.report (refusal p d new ("name already declared in " ++ s.fileOf owner))).note
      [collisionEvent p d.name new])
  | none =>
    match s.register d.name new with
    | (true, s) => (true, s)
    | (false, s) => (false, s.report (refusal p d new "conflicting rename already registered"))

/-- The session with a declaration changed. -/
def update (s : Session) (id : DeclarationId) (d : Declaration) : Session :=
  { s with declarations := s.declarations.set id d }

/-- A move that was not planned because another one was. -/
def moveRefusal (d : Declaration) (target : Path) : Diagnostic where
  rule := "file-move"
  message := "File move " ++ d.path.name ++ " -> " ++ target.name ++
    " skipped: already planned elsewhere"
  path := some d.path
  line := d.line

/-- Plan the move of the file that is named after a declaration; the new path of the file if it is
planned to move. -/
def planFile (s : Session) (id : DeclarationId) (d : Declaration) : Attempt Session (Option Path) :=
  if !d.ownsFile then .success none s
  else
    match d.path.withName (d.shortName ++ d.path.suffix) with
    | .error e => .failure (.fileName e) s
    | .ok target =>
      (s.planMove ⟨d.path, target⟩ d.plannedPath.isSome).andThen fun accepted s =>
        if target = d.path then .success none (s.update id { d with plannedPath := none })
        else if accepted then
          .success (some target) (s.update id { d with plannedPath := some target })
        else .success none (s.report (moveRefusal d target))

/-- What is reported of a renamed declaration. -/
def renamedEvent (r : RenameRecord) : Event :=
  ⟨.info, "declaration_renamed",
    [("policy", .text r.policy), ("old_fqn", .text r.old), ("new_fqn", .text r.new),
      ("file", .text r.oldPath.toString)]⟩

/-- The session with a record of a rename. -/
def recordRename (s : Session) (r : RenameRecord) : Session :=
  { s with records := s.records ++ [r] }.note [renamedEvent r]

/-- Queue the new name at the declaration itself. -/
def editName (source : Source) (d : Declaration) : Attempt Source Unit :=
  match d.nameSpan with
  | some span => source.replace span d.shortName
  | none => .success () source

/-- The steps of a renaming whose name was claimed.  `d` is the declaration with its old name. -/
def carryOut (s : Session) (source : Source) (id : DeclarationId) (d : Declaration) (new : Name)
    (p : Policy) : Attempt (Session × Source) (Option RenameRecord) :=
  let renamed := { d with shortName := new }
  let s := s.update id renamed
  ((editName source renamed).into (s, ·)).andThen fun _ (s, source) =>
    let s := { s with table := s.table.rename d.name id renamed }
    let respelled : Attempt (Session × Source) Unit :=
      if p.eager then s.respellLocal source p else .success () (s, source)
    respelled.andThen fun _ (s, source) =>
      ((s.planFile id renamed).into (·, source)).andThen fun newPath (s, source) =>
        let r : RenameRecord := ⟨d.name, renamed.name, d.path, newPath, p.name⟩
        .success (some r) (s.recordRename r, source)

/-- Rename a declaration of a file to `newName`, for a policy.  There is no record if nothing is to
be changed or the name is refused. -/
def apply (s : Session) (source : Source) (id : DeclarationId) (newName : Option Name)
    (p : Policy) : Attempt (Session × Source) (Option RenameRecord) :=
  if s.finalized then .failure .finalized (s, source)
  else
    match s.declarations[id]? with
    | none => .success none (s, source)
    | some d =>
      match newName.filter (· ≠ d.shortName) with
      | none => .success none (s, source)
      | some new =>
        match s.claim id d (Name.qualify d.space new) p with
        | (false, s) => .success none (s, source)
        | (true, s) => s.carryOut source id d new p

end Session

end Rechristen
