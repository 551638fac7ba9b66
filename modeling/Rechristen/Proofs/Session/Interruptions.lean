import Rechristen.Proofs.Session.Finality
import Rechristen.Proofs.Session.Origins
import Rechristen.Proofs.Session.Outcome
import Rechristen.Proofs.Source.Refusals

/-!
# Renamings that stop half-way

A renaming is carried out step by step: the rename is registered, the declaration gets its name, the
name is edited in the file, the table follows, an eager policy respells references, and the move of
the file is planned.  A step that fails ends the renaming, and nothing that was done before is
undone (`interrupted_rename`).  So the declaration always has the new name then, and how much of the
file and of the table agrees with it depends on the step (`Halted`).

What comes after the step that failed has not begun: the plan, the records and the diagnostics are
as before.  Files are safe, since a session that is left because of a failure moves none.
-/

namespace Rechristen

/-- Two destinations are a fault only if the policy says so and another declaration planned the
first. -/
theorem MovePlan.judge_eq_conflict {p : MovePlan} {policy : CollisionPolicy} {m : Move}
    {supersede : Bool} {planned : Path} (hjudge : p.judge policy m supersede = .conflict planned) :
    policy = .error ∧ supersede = false ∧ m.source ≠ m.target ∧
      p.target? m.source = some planned ∧ planned ≠ m.target := by
  unfold judge at hjudge
  split at hjudge
  · cases hjudge
  case isFalse hmoves =>
    split at hjudge
    · cases hjudge
    case h_2 current hcurrent =>
      cases policy with
      | firstWins => cases hjudge
      | lastWins => cases hjudge
      | error =>
          cases hjudge
          obtain ⟨hplanned, hother⟩ := Option.filter_eq_some_iff.1 hcurrent
          simp only [Bool.and_eq_true, Bool.not_eq_true', decide_eq_true_eq] at hother
          exact ⟨rfl, hother.2, hmoves, hplanned, hother.1⟩

namespace Session

variable {s t u : Session} {source edited after : Source} {id : DeclarationId} {d : Declaration}
  {new : Name} {p : Policy} {cause : Failure}

/-! ## The steps that can fail -/

/-- A name that cannot be edited leaves the file as it is. -/
theorem editName_error (hfailed : editName source d = ⟨.error cause, after⟩) :
    ∃ span, d.nameSpan = some span ∧
      (Source.Change.replacing span d.shortName).Blocked source.edits ∧
      cause.isConflict = true ∧ after = source := by
  unfold editName at hfailed
  split at hfailed
  case h_1 span hspan =>
    have hchange : source.change (.replacing span d.shortName) = ⟨.error cause, after⟩ := hfailed
    obtain ⟨hblocked, hconflict, rfl⟩ := Source.change_error hchange
    exact ⟨span, hspan, hblocked, hconflict, rfl⟩
  case h_2 => exact absurd hfailed Attempt.success_ne

/-- What is asked of a file for an eager policy. -/
def localRequests (s : Session) (source : Source) (p : Policy) : List Source.Request :=
  Source.requestsFrom 0 (source.references.map
    (s.localRewording p fun space => Resolver.ofReferences space source.references))

/-- Respelling stops at the first reference that cannot be respelled. -/
theorem respelled_error (hfailed : s.respelled source p = ⟨.error cause, (t, after)⟩) :
    p.eager = true ∧ t = s ∧ ∃ done r rest, s.localRequests source p = done ++ r :: rest ∧
      source.requestAll done = ⟨.ok (), after⟩ ∧ after.request r = ⟨.error cause, after⟩ := by
  unfold respelled at hfailed
  split at hfailed
  case isTrue heager =>
    unfold respellLocal at hfailed
    dsimp only at hfailed
    split at hfailed
    case h_1 => exact absurd hfailed Attempt.success_ne
    case h_2 other hother =>
      obtain ⟨rfl, hstate⟩ := Attempt.failure_eq hfailed
      obtain ⟨rfl, rfl⟩ := Prod.mk.inj hstate
      refine ⟨heager, rfl, Source.rewordFrom_error ?_⟩
      rw [← hother]
      rfl
  case isFalse => exact absurd hfailed Attempt.success_ne

theorem planMove_error {m : Move} {supersede : Bool}
    (hfailed : s.planMove m supersede = ⟨.error cause, t⟩) :
    ∃ planned, s.plan.judge s.collision m.normal supersede = .conflict planned ∧
      cause = .planConflict m.normal.source planned m.normal.target ∧ t = s := by
  unfold planMove at hfailed
  dsimp only at hfailed
  split at hfailed
  case h_1 planned hjudge =>
    obtain ⟨rfl, rfl⟩ := Attempt.failure_eq hfailed
    refine ⟨planned, hjudge, rfl, ?_⟩
    rw [hjudge]
    simp [note, MovePlan.Verdict.plan, MovePlan.Verdict.events]
  case h_2 => exact absurd hfailed Attempt.success_ne

/-- A move is not planned because the file cannot have the name or has another destination. -/
theorem planFile_error (hfailed : s.planFile id d = ⟨.error cause, t⟩) :
    d.ownsFile = true ∧ t = s ∧
      ((∃ error, d.path.withName (d.shortName ++ d.path.suffix) = .error error ∧
          cause = .fileName error) ∨
        ∃ target planned, d.path.withName (d.shortName ++ d.path.suffix) = .ok target ∧
          s.plan.judge s.collision ⟨d.path.normal, target.normal⟩ d.plannedPath.isSome =
            .conflict planned ∧
          cause = .planConflict d.path.normal planned target.normal) := by
  unfold planFile at hfailed
  split at hfailed
  · exact absurd hfailed Attempt.success_ne
  case isFalse howns =>
    refine ⟨by simpa using howns, ?_⟩
    split at hfailed
    case h_1 error herror =>
      obtain ⟨rfl, rfl⟩ := Attempt.failure_eq hfailed
      exact ⟨rfl, Or.inl ⟨error, herror, rfl⟩⟩
    case h_2 target htarget =>
      rcases Attempt.andThen_error hfailed with hmove | ⟨accepted, u, -, hrest⟩
      · obtain ⟨planned, hjudge, rfl, rfl⟩ := planMove_error hmove
        exact ⟨rfl, Or.inr ⟨target, planned, htarget, hjudge, rfl⟩⟩
      · split at hrest
        · exact absurd hrest Attempt.success_ne
        split at hrest
        · exact absurd hrest Attempt.success_ne
        · exact absurd hrest Attempt.success_ne

/-! ## Where a renaming stops -/

/-- A renaming that stopped, by the step that failed.  The declaration `id`, which was `d`, was to
get the short name `new`; `table` is the table before, `t` the session that is left, and the file
was `source` and is `after`. -/
inductive Halted (table : DeclarationTable) (t : Session) (source after : Source)
    (id : DeclarationId) (d : Declaration) (new : Name) (p : Policy) : Failure → Prop where
  /-- An edit is in the way of the name. -/
  | name {span : ByteSpan} {cause : Failure} (hspan : d.nameSpan = some span)
      (hblocked : (Source.Change.replacing span new).Blocked source.edits)
      (hcause : cause.isConflict = true) (hafter : after = source) (htable : t.table = table) :
      Halted table t source after id d new p cause
  /-- An edit is in the way of a reference, and those before it are respelled. -/
  | reference {edited : Source} {done rest : List Source.Request} {r : Source.Request}
      {cause : Failure} (hedit : editName source { d with shortName := new } = ⟨.ok (), edited⟩)
      (htable : t.table = table.rename d.name id { d with shortName := new })
      (heager : p.eager = true) (hrequests : t.localRequests edited p = done ++ r :: rest)
      (hdone : edited.requestAll done = ⟨.ok (), after⟩)
      (hrefused : after.request r = ⟨.error cause, after⟩) :
      Halted table t source after id d new p cause
  /-- The file cannot have the name. -/
  | fileName {edited : Source} {error : Path.NameError}
      (hedit : editName source { d with shortName := new } = ⟨.ok (), edited⟩)
      (htable : t.table = table.rename d.name id { d with shortName := new })
      (hrespelled : Respelled t p edited after) (howns : d.ownsFile = true)
      (herror : d.path.withName (new ++ d.path.suffix) = .error error) :
      Halted table t source after id d new p (.fileName error)
  /-- Another declaration planned another destination of the file. -/
  | destination {edited : Source} {target planned : Path}
      (hedit : editName source { d with shortName := new } = ⟨.ok (), edited⟩)
      (htable : t.table = table.rename d.name id { d with shortName := new })
      (hrespelled : Respelled t p edited after) (howns : d.ownsFile = true)
      (htarget : d.path.withName (new ++ d.path.suffix) = .ok target)
      (hcollision : t.collision = .error) (hfirst : d.plannedPath = none)
      (hmoves : d.path.normal ≠ target.normal)
      (hplanned : t.plan.target? d.path.normal = some planned) (hother : planned ≠ target.normal) :
      Halted table t source after id d new p (.planConflict d.path.normal planned target.normal)

theorem carryOut_error (hfailed : s.carryOut source id d new p = ⟨.error cause, (t, after)⟩) :
    t = { s with
      declarations := s.declarations.set id { d with shortName := new }
      table := t.table
      log := t.log } ∧
    Halted s.table t source after id d new p cause := by
  rw [carryOut_eq] at hfailed
  rcases Attempt.andThen_error hfailed with hname | ⟨_, ⟨named, edited⟩, hinto, hfailed⟩
  · obtain ⟨left, hedit, hstate⟩ := Attempt.into_error hname
    cases hstate
    obtain ⟨span, hspan, hblocked, hconflict, rfl⟩ := editName_error hedit
    exact ⟨rfl, .name hspan hblocked hconflict rfl rfl⟩
  obtain ⟨_, hedit, hstate⟩ := Attempt.into_ok hinto
  cases hstate
  rcases Attempt.andThen_error hfailed with hreference | ⟨_, ⟨u, after'⟩, hrespell, hfailed⟩
  · obtain ⟨heager, rfl, done, r, rest, hrequests, hdone, hrefused⟩ := respelled_error hreference
    exact ⟨rfl, .reference hedit rfl heager hrequests hdone hrefused⟩
  -- Only the plan is left, and a move that is not planned leaves everything as it is.
  obtain ⟨⟨events, rfl⟩, hrespelled⟩ := respelled_ok hrespell
  rcases Attempt.andThen_error hfailed with hmove | ⟨_, _, -, hrecord⟩
  · obtain ⟨left, hplan, hstate⟩ := Attempt.into_error hmove
    cases hstate
    obtain ⟨howns, rfl, ⟨error, herror, rfl⟩ | ⟨target, planned, htarget, hjudge, rfl⟩⟩ :=
      planFile_error hplan
    · exact ⟨rfl, .fileName hedit rfl (hrespelled.congr rfl rfl) howns herror⟩
    · obtain ⟨hcollision, hsupersede, hmoves, hplanned, hother⟩ :=
        MovePlan.judge_eq_conflict hjudge
      exact ⟨rfl, .destination hedit rfl (hrespelled.congr rfl rfl) howns htarget hcollision
        (by simpa using hsupersede) hmoves hplanned hother⟩
  · exact absurd hrecord Attempt.success_ne

/-- **What an interrupted renaming leaves behind.**  If a call on an open session fails, the name
was granted and is the name of the declaration and in the registry.  Beside these nothing differs
but the log, and what belongs to the steps before the one that failed: the table and the file.
Leaving the session moves no file. -/
theorem interrupted_rename (hopen : s.finalized = false) {newName : Option Name}
    (hfailed : s.apply source id newName p = ⟨.error cause, (t, after)⟩) :
    ∃ d new, s.declarations[id]? = some d ∧ newName = some new ∧ new ≠ d.shortName ∧
      s.Grants id d new ∧
      t = { s with
        declarations := s.declarations.set id { d with shortName := new }
        registry := (s.registry.register d.name (Name.qualify d.space new)).registry
        table := t.table
        log := t.log } ∧
      Halted s.table t source after id d new p cause ∧
      ∀ tree, (t.leave tree true).state.2 = tree := by
  rcases apply_eq s source id newName p with ⟨hclosed, -⟩ | ⟨-, ⟨-, happly⟩ |
    ⟨d, new, hfound, hnew, hdiffers, ⟨-, reason, events, happly⟩ | ⟨hgrants, happly⟩⟩⟩
  · rw [hopen] at hclosed
    cases hclosed
  · rw [happly] at hfailed
    exact absurd hfailed Attempt.success_ne
  · rw [happly] at hfailed
    exact absurd hfailed Attempt.success_ne
  · rw [happly] at hfailed
    obtain ⟨ht, hhalted⟩ := carryOut_error hfailed
    rw [register_table] at hhalted
    simp only [register, note] at ht
    exact ⟨d, new, hfound, hnew, hdiffers, hgrants, ht, hhalted, leave_failed_tree t⟩

/-! ### Two classes in one file -/

/-- A class `Foo` of some namespace, in a file that is named after it. -/
def fooIn (space : Name) (span : ByteSpan) : Declaration where
  shortName := "Foo"
  space
  kind := .class_
  path := ⟨"/", ["proj", "Foo.php"]⟩
  nameSpan := some span
  ownsFile := true

/-- The file of two classes `Foo`. -/
def fooFile : Source where
  path := ⟨"/", ["proj", "Foo.php"]⟩
  content := Text.encodeUtf8 "A\\Foo B\\Foo"

/-- The first class was renamed, and the file is to be called after it. -/
def fooRenamed : Session × Source :=
  ((opened false .error [fooIn "A" ⟨2, 5, by decide⟩, fooIn "B" ⟨8, 11, by decide⟩]).apply fooFile 0
    (some "Bar") Policy.valueObject).state

/-- The second class is to be renamed too. -/
def fooInterrupted : Attempt (Session × Source) (Option RenameRecord) :=
  fooRenamed.1.apply fooRenamed.2 1 (some "Baz") Policy.valueObject

theorem interrupted_rename_foo :
    fooRenamed.1.finalized = false ∧
    fooInterrupted.failure? = some (.planConflict ⟨"/", ["proj", "Foo.php"]⟩
      ⟨"/", ["proj", "Bar.php"]⟩ ⟨"/", ["proj", "Baz.php"]⟩) ∧
    fooInterrupted.state.1.plan = fooRenamed.1.plan ∧
    fooInterrupted.state.1.records = fooRenamed.1.records ∧
    fooInterrupted.state.1.declarations = fooRenamed.1.declarations.set 1
      { fooIn "B" ⟨8, 11, by decide⟩ with shortName := "Baz" } ∧
    ∀ tree, (fooInterrupted.state.1.leave tree true).state.2 = tree := by
  have hopen : fooRenamed.1.finalized = false := by decide +kernel
  have hfailed : fooInterrupted.failure? = some (.planConflict ⟨"/", ["proj", "Foo.php"]⟩
      ⟨"/", ["proj", "Bar.php"]⟩ ⟨"/", ["proj", "Baz.php"]⟩) := by
    decide +kernel
  have hsecond : fooRenamed.1.declarations[1]? = some (fooIn "B" ⟨8, 11, by decide⟩) := by
    decide +kernel
  obtain ⟨d, new, hfound, hnew, -, -, hleft, -, htree⟩ :=
    interrupted_rename hopen (Attempt.eq_error hfailed)
  obtain rfl := Option.some.inj (hfound.symm.trans hsecond)
  obtain rfl := Option.some.inj hnew
  have hplan := congrArg plan hleft
  have hrecords := congrArg records hleft
  have hdeclarations := congrArg declarations hleft
  exact ⟨hopen, hfailed, hplan, hrecords, hdeclarations, htree⟩

/-- **A renaming that fails is not undone.**  The file of two classes cannot be called after the
second one, too.  That class has its new name nevertheless, in the session and in the file. -/
theorem half_renamed :
    fooInterrupted.failure?.isSome = true ∧
    fooRenamed.1.declarations.map Declaration.name = ["A\\Bar", "B\\Foo"] ∧
    fooInterrupted.state.1.declarations.map Declaration.name = ["A\\Bar", "B\\Baz"] ∧
    fooRenamed.1.registry.lookup "B\\Foo" = none ∧
    fooInterrupted.state.1.registry.lookup "B\\Foo" = some "B\\Baz" ∧
    fooRenamed.1.table.get? "B\\Foo" = some 1 ∧
    fooInterrupted.state.1.table.get? "B\\Foo" = none ∧
    fooRenamed.2.edits.queue.length = 1 ∧
    fooInterrupted.state.2.edits.queue.length = 2 ∧
    fooInterrupted.state.1.plan.moves =
      [⟨⟨"/", ["proj", "Foo.php"]⟩, ⟨"/", ["proj", "Bar.php"]⟩⟩] := by
  decide +kernel

/-- Two references to a class, of which the second begins inside the first. -/
def entangled : Source where
  path := ⟨"/", ["proj", "F.php"]⟩
  content := Text.encodeUtf8 "FooValueValue"
  references :=
    [{ name := "FooValue", kind := .bare, span := ⟨0, 8, by decide⟩, space := "ValueObject" },
      { name := "FooValue", kind := .bare, span := ⟨3, 11, by decide⟩, space := "ValueObject" }]

/-- The class is renamed, and so is one of the references. -/
example :
    let fooValue : Declaration :=
      { shortName := "FooValue", space := "ValueObject", kind := .class_, path := entangled.path }
    let call :=
      (opened false .firstWins [fooValue]).apply entangled 0 (some "Foo") Policy.valueObject
    call.conflicts = true ∧
      call.state.1.declarations.map Declaration.name = ["ValueObject\\Foo"] ∧
      call.state.2.references.map Reference.name = ["Foo", "FooValue"] := by
  decide +kernel

end Session

end Rechristen
