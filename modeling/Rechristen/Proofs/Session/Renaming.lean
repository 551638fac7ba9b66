import Rechristen.Proofs.Attempt
import Rechristen.Proofs.Registry.Replay
import Rechristen.Session.Apply

/-!
# What renaming a declaration comes to

`Session.apply` goes through many steps, each of which may fail.  Seen from outside a call that
returns does one of two things (`apply_cases`): it leaves all names as they are and gives no record,
or it renames one declaration, in the list of declarations, in the table and in the registry alike.
Everything that is proved about sequences of calls starts from this case distinction.
-/

namespace Rechristen.Session

/-- `t` is `s` after the declaration `id`, which was `d`, got the short name `new`. -/
structure Renamed (s t : Session) (id : DeclarationId) (d : Declaration) (new : Name) : Prop where
  found : s.declarations[id]? = some d
  unrivalled : s.table.rival? (Name.qualify d.space new) id = none
  accepted : (s.registry.register d.name (Name.qualify d.space new)).accepted = true
  registry : t.registry = (s.registry.register d.name (Name.qualify d.space new)).registry
  table : t.table = s.table.rename d.name id { d with shortName := new }
  declarations : ∃ planned, t.declarations =
    s.declarations.set id { d with shortName := new, plannedPath := planned }

/-- `t` has the names of `s`. -/
structure SameNames (s t : Session) : Prop where
  declarations : t.declarations = s.declarations
  registry : t.registry = s.registry
  table : t.table = s.table

namespace SameNames

theorem refl (s : Session) : SameNames s s := ⟨rfl, rfl, rfl⟩

theorem trans {s t u : Session} (hst : SameNames s t) (htu : SameNames t u) : SameNames s u :=
  ⟨htu.declarations.trans hst.declarations, htu.registry.trans hst.registry,
    htu.table.trans hst.table⟩

theorem note (s : Session) (events : List Event) : SameNames s (s.note events) := ⟨rfl, rfl, rfl⟩

theorem report (s : Session) (d : Diagnostic) : SameNames s (s.report d) := ⟨rfl, rfl, rfl⟩

end SameNames

/-! ## The steps -/

section Register

variable (s : Session) (old new : Name)

@[simp] theorem register_registry :
    (s.register old new).2.registry = (s.registry.register old new).registry := by
  simp only [register, note]

@[simp] theorem register_declarations :
    (s.register old new).2.declarations = s.declarations := by
  simp only [register, note]

@[simp] theorem register_table : (s.register old new).2.table = s.table := by
  simp only [register, note]

@[simp] theorem register_plan : (s.register old new).2.plan = s.plan := by
  simp only [register, note]

@[simp] theorem register_collision : (s.register old new).2.collision = s.collision := by
  simp only [register, note]

end Register

/-- A declaration, `d` in the list, may be called `new`: no other one is found under that name, and
the registry accepts the rename. -/
def Grants (s : Session) (id : DeclarationId) (d : Declaration) (new : Name) : Prop :=
  s.table.rival? (Name.qualify d.space new) id = none ∧
    (s.registry.register d.name (Name.qualify d.space new)).accepted = true

instance (s : Session) (id : DeclarationId) (d : Declaration) (new : Name) :
    Decidable (s.Grants id d new) :=
  inferInstanceAs (Decidable (_ ∧ _))

/-- A refused claim is only told; a granted one is in the registry. -/
theorem claim_cases (s : Session) (id : DeclarationId) (d : Declaration) (new : Name) (p : Policy) :
    (¬s.Grants id d new ∧ ∃ reason events, s.claim id d (Name.qualify d.space new) p =
      (false, (s.report (refusal p d (Name.qualify d.space new) reason)).note events)) ∨
    (s.Grants id d new ∧ s.claim id d (Name.qualify d.space new) p =
      (true, (s.register d.name (Name.qualify d.space new)).2)) := by
  unfold claim Grants
  cases s.table.rival? (Name.qualify d.space new) id with
  | some owner =>
      refine Or.inl ⟨?_, _, _, rfl⟩
      rintro ⟨hrival, -⟩
      cases hrival
  | none =>
      -- A refused rename leaves the registry as it was, so that only its events are left to tell.
      have hkept := @Registry.registry_of_refused s.registry d.name (Name.qualify d.space new)
      simp only [register]
      generalize s.registry.register d.name (Name.qualify d.space new) = registration at hkept ⊢
      cases haccepted : registration.accepted with
      | true => exact Or.inr ⟨⟨trivial, rfl⟩, rfl⟩
      | false =>
          refine Or.inl ⟨?_, "conflicting rename already registered", registration.events, ?_⟩
          · rintro ⟨-, htrue⟩
            cases htrue
          · rw [hkept haccepted]
            rfl

theorem state_planMove (s : Session) (m : Move) (supersede : Bool) :
    (s.planMove m supersede).state.plan =
        (s.plan.judge s.collision m.normal supersede).plan s.plan ∧
      (s.planMove m supersede).state.collision = s.collision ∧
      SameNames s (s.planMove m supersede).state := by
  unfold planMove
  dsimp only
  split <;> exact ⟨rfl, rfl, rfl, rfl, rfl⟩

/-- Planning a move, also one that fails, changes at most what the declaration notes. -/
theorem planFile_state (s : Session) (id : DeclarationId) (d : Declaration) :
    (s.planFile id d).state.registry = s.registry ∧ (s.planFile id d).state.table = s.table ∧
      ((s.planFile id d).state.declarations = s.declarations ∨
        ∃ planned, (s.planFile id d).state.declarations =
          s.declarations.set id { d with plannedPath := planned }) := by
  unfold planFile
  split
  · exact ⟨rfl, rfl, Or.inl rfl⟩
  split
  · exact ⟨rfl, rfl, Or.inl rfl⟩
  case h_2 target _ =>
    obtain ⟨-, -, hsame⟩ := state_planMove s ⟨d.path, target⟩ d.plannedPath.isSome
    generalize s.planMove ⟨d.path, target⟩ d.plannedPath.isSome = a at hsame
    obtain ⟨result, t⟩ := a
    cases result with
    | error cause => exact ⟨hsame.registry, hsame.table, Or.inl hsame.declarations⟩
    | ok accepted =>
        simp only [Attempt.andThen]
        split
        · exact ⟨hsame.registry, hsame.table, Or.inr ⟨none, by rw [← hsame.declarations]; rfl⟩⟩
        split
        · exact ⟨hsame.registry, hsame.table, Or.inr ⟨_, by rw [← hsame.declarations]; rfl⟩⟩
        · exact ⟨hsame.registry, hsame.table, Or.inl hsame.declarations⟩

/-- What becomes of a reference depends on the registry and the table alone. -/
theorem localRewording_congr {s t : Session} (hregistry : s.registry = t.registry)
    (htable : s.table = t.table) (p : Policy) (resolver : Name → Resolver) :
    s.localRewording p resolver = t.localRewording p resolver := by
  have htarget : s.isLocalTarget p = t.isLocalTarget p := by
    funext name
    rw [isLocalTarget, isLocalTarget, hregistry, htable]
  have htaken : s.isTakenBeside = t.isTakenBeside := by
    funext name guess
    rw [isTakenBeside, isTakenBeside, htable]
  have hshort : s.targetShort p = t.targetShort p := by
    funext name current
    rw [targetShort, targetShort, hregistry, htaken]
  funext site
  rw [localRewording, localRewording, htarget, hshort]

/-- The references of the file of a renamed declaration: those of `before` become those of `after`.
Only an eager policy touches them, and it reads the names of `s`, the session after the renaming. -/
def Respelled (s : Session) (p : Policy) (before after : Source) : Prop :=
  if p.eager then
    ∃ count, before.rewordAll (before.references.map
      (s.localRewording p fun space => Resolver.ofReferences space before.references)) =
        ⟨.ok count, after⟩
  else after = before

theorem Respelled.congr {s t : Session} {p : Policy} {before after : Source}
    (hrespelled : Respelled s p before after) (hregistry : t.registry = s.registry)
    (htable : t.table = s.table) : Respelled t p before after := by
  unfold Respelled at hrespelled ⊢
  rwa [localRewording_congr hregistry htable]

theorem respellLocal_ok {s t : Session} {p : Policy} {before after : Source}
    (hrespell : s.respellLocal before p = ⟨.ok (), (t, after)⟩) :
    (∃ events, t = s.note events) ∧ ∃ count, before.rewordAll (before.references.map
      (s.localRewording p fun space => Resolver.ofReferences space before.references)) =
        ⟨.ok count, after⟩ := by
  unfold respellLocal at hrespell
  dsimp only at hrespell
  split at hrespell
  case h_1 count hcount =>
    obtain ⟨-, hstate⟩ := Attempt.success_eq hrespell
    obtain ⟨rfl, rfl⟩ := Prod.mk.inj hstate
    refine ⟨?_, count, ?_⟩
    · split
      · exact ⟨[], by simp [note]⟩
      · exact ⟨_, rfl⟩
    · rw [← hcount]
  case h_2 => exact absurd hrespell Attempt.failure_ne

/-- The references of the file of a renamed declaration follow, if the policy is eager. -/
def respelled (s : Session) (source : Source) (p : Policy) : Attempt (Session × Source) Unit :=
  if p.eager then s.respellLocal source p else .success () (s, source)

theorem respelled_ok {s t : Session} {source after : Source} {p : Policy}
    (hrespelled : s.respelled source p = ⟨.ok (), (t, after)⟩) :
    (∃ events, t = s.note events) ∧ Respelled s p source after := by
  unfold respelled at hrespelled
  unfold Respelled
  split at hrespelled
  case isTrue heager =>
    rw [if_pos heager]
    exact respellLocal_ok hrespelled
  case isFalse heager =>
    obtain ⟨-, hstate⟩ := Attempt.success_eq hrespelled
    obtain ⟨rfl, rfl⟩ := Prod.mk.inj hstate
    rw [if_neg heager]
    exact ⟨⟨[], by simp [note]⟩, rfl⟩

/-- The session with a renamed declaration under its new name in the table. -/
def afterTable (s : Session) (old : Name) (id : DeclarationId) (renamed : Declaration) : Session :=
  { s with table := s.table.rename old id renamed }

/-- The last steps of a renaming: the move of the file is planned and the rename is recorded. -/
def finish (u : Session) (source : Source) (id : DeclarationId) (d renamed : Declaration)
    (p : Policy) : Attempt (Session × Source) (Option RenameRecord) :=
  ((u.planFile id renamed).into (·, source)).andThen fun newPath (u, source) =>
    let r : RenameRecord := ⟨d.name, renamed.name, d.path, newPath, p.name⟩
    .success (some r) (u.recordRename r, source)

theorem carryOut_eq (s : Session) (source : Source) (id : DeclarationId) (d : Declaration)
    (new : Name) (p : Policy) :
    s.carryOut source id d new p =
      ((editName source { d with shortName := new }).into
        (s.update id { d with shortName := new }, ·)).andThen fun _ left =>
          (left.1.afterTable d.name id { d with shortName := new } |>.respelled left.2 p).andThen
            fun _ left => finish left.1 left.2 id d { d with shortName := new } p := rfl

theorem carryOut_ok {s t : Session} {source after : Source} {id : DeclarationId} {d : Declaration}
    {new : Name} {p : Policy} {record : Option RenameRecord}
    (hcarry : s.carryOut source id d new p = ⟨.ok record, (t, after)⟩) :
    t.registry = s.registry ∧ t.table = s.table.rename d.name id { d with shortName := new } ∧
      (∃ planned, t.declarations =
        s.declarations.set id { d with shortName := new, plannedPath := planned }) ∧
      (∃ newPath, record =
        some ⟨d.name, Name.qualify d.space new, d.path, newPath, p.name⟩) ∧
      ∃ edited, editName source { d with shortName := new } = ⟨.ok (), edited⟩ ∧
        Respelled t p edited after := by
  rw [carryOut_eq] at hcarry
  obtain ⟨_, ⟨named, edited⟩, hinto, hcarry⟩ := Attempt.andThen_ok hcarry
  obtain ⟨edited, hedit, hstate⟩ := Attempt.into_ok hinto
  cases hstate
  obtain ⟨_, ⟨u, respelled⟩, hrespell, hfinish⟩ := Attempt.andThen_ok hcarry
  -- The session in which the references are respelled already has the names it ends with.
  obtain ⟨⟨events, rfl⟩, hrespelled⟩ := respelled_ok hrespell
  obtain ⟨newPath, ⟨planned, respelled⟩, hinto, hrecord⟩ := Attempt.andThen_ok hfinish
  obtain ⟨planned, hplan, hstate⟩ := Attempt.into_ok hinto
  cases hstate
  obtain ⟨rfl, hstate⟩ := Attempt.success_eq hrecord
  cases hstate
  obtain ⟨hregistry, htable, hdeclarations⟩ := planFile_state
    (((s.update id { d with shortName := new }).afterTable d.name id
      { d with shortName := new }).note events) id { d with shortName := new }
  rw [hplan] at hregistry htable hdeclarations
  refine ⟨hregistry, htable, ?_, ⟨newPath, rfl⟩, edited, hedit, hrespelled.congr hregistry htable⟩
  rcases hdeclarations with hkept | ⟨path, hset⟩
  · exact ⟨d.plannedPath, hkept⟩
  · refine ⟨path, hset.trans ?_⟩
    exact List.set_set ..

/-- Where a call of `apply` stops: the session is closed, there is no other name to be given, the
name is refused, or the renaming is carried out. -/
theorem apply_eq (s : Session) (source : Source) (id : DeclarationId) (newName : Option Name)
    (p : Policy) :
    (s.finalized = true ∧ s.apply source id newName p = .failure .finalized (s, source)) ∨
    s.finalized = false ∧
      (((∀ d new, s.declarations[id]? = some d → newName = some new → new = d.shortName) ∧
          s.apply source id newName p = .success none (s, source)) ∨
        ∃ d new, s.declarations[id]? = some d ∧ newName = some new ∧ new ≠ d.shortName ∧
          ((¬s.Grants id d new ∧ ∃ reason events, s.apply source id newName p = .success none
              ((s.report (refusal p d (Name.qualify d.space new) reason)).note events, source)) ∨
            s.Grants id d new ∧ s.apply source id newName p =
              (s.register d.name (Name.qualify d.space new)).2.carryOut source id d new p)) := by
  unfold apply
  cases s.finalized with
  | true => exact Or.inl ⟨rfl, rfl⟩
  | false =>
      refine Or.inr ⟨rfl, ?_⟩
      simp only [Bool.false_eq_true, if_false]
      cases s.declarations[id]? with
      | none => exact Or.inl ⟨by simp, rfl⟩
      | some d =>
          dsimp only
          -- The name the declaration has is no wish.
          cases hwanted : newName.filter (· ≠ d.shortName) with
          | none =>
              refine Or.inl ⟨?_, rfl⟩
              rintro _ new ⟨rfl⟩ rfl
              simpa using hwanted
          | some new =>
              obtain ⟨hnew, hdiffers⟩ := Option.filter_eq_some_iff.1 hwanted
              refine Or.inr ⟨d, new, rfl, hnew, by simpa using hdiffers, ?_⟩
              dsimp only
              rcases claim_cases s id d new p with ⟨hrefused, reason, events, hclaim⟩ |
                ⟨hgrants, hclaim⟩
              · rw [hclaim]
                exact Or.inl ⟨hrefused, reason, events, rfl⟩
              · rw [hclaim]
                exact Or.inr ⟨hgrants, rfl⟩

/-- **What a call does.**  A call that returns leaves all names and the file as they are, or renames
the declaration. -/
theorem apply_cases {s t : Session} {source after : Source} {id : DeclarationId}
    {newName : Option Name} {p : Policy} {record : Option RenameRecord}
    (happly : s.apply source id newName p = ⟨.ok record, (t, after)⟩) :
    (record = none ∧ SameNames s t ∧ after = source) ∨
    ∃ d new, newName = some new ∧ new ≠ d.shortName ∧ Renamed s t id d new ∧
      (∃ newPath, record =
        some ⟨d.name, Name.qualify d.space new, d.path, newPath, p.name⟩) ∧
      ∃ edited, editName source { d with shortName := new } = ⟨.ok (), edited⟩ ∧
        Respelled t p edited after := by
  rcases apply_eq s source id newName p with ⟨-, hclosed⟩ | ⟨-, ⟨-, hnone⟩ |
    ⟨d, new, hfound, hnew, hdiffers, ⟨-, reason, events, hrefused⟩ | ⟨hgrants, hcarry⟩⟩⟩
  · rw [hclosed] at happly
    exact absurd happly Attempt.failure_ne
  · rw [hnone] at happly
    obtain ⟨rfl, hstate⟩ := Attempt.success_eq happly
    obtain ⟨rfl, rfl⟩ := Prod.mk.inj hstate
    exact Or.inl ⟨rfl, SameNames.refl _, rfl⟩
  · rw [hrefused] at happly
    obtain ⟨rfl, hstate⟩ := Attempt.success_eq happly
    obtain ⟨rfl, rfl⟩ := Prod.mk.inj hstate
    exact Or.inl ⟨rfl, (SameNames.report s _).trans (SameNames.note _ _), rfl⟩
  · rw [hcarry] at happly
    obtain ⟨hregistry, htable, hdeclarations, hrecord, hsource⟩ := carryOut_ok happly
    rw [register_registry] at hregistry
    rw [register_table] at htable
    rw [register_declarations] at hdeclarations
    exact Or.inr ⟨d, new, hnew, hdiffers,
      ⟨hfound, hgrants.1, hgrants.2, hregistry, htable, hdeclarations⟩, hrecord, hsource⟩

end Rechristen.Session
