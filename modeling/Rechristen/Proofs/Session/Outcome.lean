import Rechristen.Proofs.Session.Renaming

/-!
# What a call leaves behind

A call of `apply` that fails has changed the session already: its name was claimed and given, and
perhaps the declaration is no longer found under the name it had.  What was done depends on where
the call failed (`apply_outcome`).  Editing fails only because edits overlap, and then no move was
planned.  Otherwise planning the move is the last step, and the call fails if and only if that step
does.
-/

namespace Rechristen

namespace Attempt

variable {σ τ α β : Type} {a : Attempt σ α}

/-- The attempt fails, if at all, because edits overlap, and the state it leaves behind is good. -/
structure Editing (good : σ → Prop) (a : Attempt σ α) : Prop where
  left : good a.state
  conflict : ∀ cause, a.failure? = some cause → cause.isConflict = true

namespace Editing

variable {good : σ → Prop}

theorem success {value : α} {state : σ} (hstate : good state) :
    Editing good (success value state) :=
  ⟨hstate, nofun⟩

theorem andThen {f : α → σ → Attempt σ β} (ha : a.Editing good)
    (hf : ∀ value state, good state → (f value state).Editing good) :
    (a.andThen f).Editing good := by
  obtain ⟨result, state⟩ := a
  cases result with
  | error cause => exact ⟨ha.left, ha.conflict⟩
  | ok value => exact hf value state ha.left

theorem map (ha : a.Editing good) (f : α → β) : (a.map f).Editing good := by
  obtain ⟨result, state⟩ := a
  cases result with
  | error cause => exact ⟨ha.left, ha.conflict⟩
  | ok value => exact ⟨ha.left, nofun⟩

theorem cases (ha : a.Editing good) :
    (∃ value, a = Attempt.success value a.state) ∨
      ∃ cause, cause.isConflict = true ∧ a = Attempt.failure cause a.state := by
  obtain ⟨result, state⟩ := a
  cases result with
  | error cause => exact Or.inr ⟨cause, ha.conflict cause rfl, rfl⟩
  | ok value => exact Or.inl ⟨value, rfl⟩

end Editing

end Attempt

/-! ## Edits -/

namespace Source

open Attempt (Editing)

/-- What no edit touches: where a file is and which declarations it has. -/
def frame (s : Source) : Path × List DeclarationId :=
  (s.relativePath, s.declarations)

variable {s : Source} {f : Path × List DeclarationId} (hs : s.frame = f)

include hs

theorem editing_replace (span : ByteSpan) (new : String) :
    (s.replace span new).Editing fun t => t.frame = f := by
  unfold replace
  split
  · exact Editing.success hs
  · refine ⟨hs, ?_⟩
    rintro cause ⟨rfl⟩
    rfl

theorem editing_respellReference (index : Nat) (name : Name) :
    (s.respellReference index name).Editing fun t => t.frame = f := by
  unfold respellReference
  split
  · exact Editing.success hs
  · exact (editing_replace hs _ _).andThen fun _ _ ht => Editing.success ht

theorem editing_respellAlias (index : Nat) (name : Name) :
    (s.respellAlias index name).Editing fun t => t.frame = f := by
  unfold respellAlias
  split
  · exact Editing.success hs
  · exact (editing_replace hs _ _).andThen fun _ _ ht => Editing.success ht

theorem editing_reword (index : Nat) (w : Rewording) :
    (s.reword index w).Editing fun t => t.frame = f := by
  unfold reword
  refine Editing.andThen ?_ fun n t ht => ?_
  · split
    · exact Editing.success hs
    · exact (editing_respellReference hs _ _).map _
  · split
    · exact Editing.success ht
    · exact (editing_respellAlias ht _ _).map _

theorem editing_rewordFrom (index : Nat) (words : List Rewording) :
    (s.rewordFrom index words).Editing fun t => t.frame = f := by
  induction words generalizing s index with
  | nil => exact Editing.success hs
  | cons w rest ih =>
      exact (editing_reword hs index w).andThen fun n t ht => (ih ht (index + 1)).map (n + ·)

end Source

namespace Session

open Attempt (Editing)

variable {s t u : Session} {source : Source} {f : Path × List DeclarationId}

/-- `t` has the names and the plan of `s`; what they tell may differ. -/
structure Alike (s t : Session) : Prop extends SameNames s t where
  plan : t.plan = s.plan
  collision : t.collision = s.collision

theorem Alike.refl (s : Session) : Alike s s := ⟨SameNames.refl s, rfl, rfl⟩

theorem editing_editName (hsource : source.frame = f) (d : Declaration) :
    (editName source d).Editing fun t => t.frame = f := by
  unfold editName
  split
  · exact Source.editing_replace hsource _ _
  · exact Editing.success hsource

theorem editing_respellLocal (s : Session) (hsource : source.frame = f) (p : Policy) :
    (s.respellLocal source p).Editing fun left => Alike s left.1 ∧ left.2.frame = f := by
  have hreword := Source.editing_rewordFrom hsource 0 (source.references.map
    (s.localRewording p fun space => Resolver.ofReferences space source.references))
  unfold respellLocal Source.rewordAll
  dsimp only
  split
  · refine Editing.success ⟨?_, hreword.left⟩
    split
    · exact Alike.refl s
    · exact ⟨SameNames.note s _, rfl, rfl⟩
  case h_2 cause hcause =>
    refine ⟨⟨Alike.refl s, hreword.left⟩, ?_⟩
    rintro _ ⟨rfl⟩
    exact hreword.conflict cause (by rw [Attempt.failure?, hcause])

theorem editing_respelled (s : Session) (hsource : source.frame = f) (p : Policy) :
    (s.respelled source p).Editing fun left => Alike s left.1 ∧ left.2.frame = f := by
  unfold respelled
  split
  · exact editing_respellLocal s hsource p
  · exact Editing.success ⟨Alike.refl s, hsource⟩

/-! ## The outcome -/

/-- `u` is `s` with the declaration `id`, which was called `old`, changed to `renamed`.  It may
still be found under its old name. -/
structure Given (s u : Session) (id : DeclarationId) (old : Name) (renamed : Declaration) :
    Prop where
  registry : u.registry = s.registry
  declarations : u.declarations = s.declarations.set id renamed
  table : u.table = s.table ∨ u.table = s.table.rename old id renamed
  plan : u.plan = s.plan
  collision : u.collision = s.collision

/-- A renaming fails while the file is edited, or comes to its last steps. -/
theorem carryOut_outcome (s : Session) (source : Source) (id : DeclarationId) (d : Declaration)
    (new : Name) (p : Policy) :
    ∃ u after, Given s u id d.name { d with shortName := new } ∧
      after.frame = source.frame ∧
      ((∃ cause, cause.isConflict = true ∧
          s.carryOut source id d new p = Attempt.failure cause (u, after)) ∨
        u.table = s.table.rename d.name id { d with shortName := new } ∧
          s.carryOut source id d new p = finish u after id d { d with shortName := new } p) := by
  rw [carryOut_eq]
  generalize ({ d with shortName := new } : Declaration) = renamed
  have hedited : (editName source renamed).Editing fun t => t.frame = source.frame :=
    editing_editName rfl renamed
  rcases hedited.cases with ⟨_, hedit⟩ | ⟨cause, hconflict, hedit⟩
  case inr =>
    rw [hedit]
    exact ⟨s.update id renamed, (editName source renamed).state,
      ⟨rfl, rfl, Or.inl rfl, rfl, rfl⟩, hedited.left, Or.inl ⟨cause, hconflict, rfl⟩⟩
  have hframe := hedited.left
  rw [hedit]
  generalize (editName source renamed).state = edited at hframe
  -- The name is edited.  From here on the declaration is found under its new name.
  generalize hnamed : (s.update id renamed).afterTable d.name id renamed = named
  have hrespelled := editing_respelled named hframe p
  obtain ⟨hkept, hframe'⟩ := hrespelled.left
  have hgiven : Given s (named.respelled edited p).state.1 id d.name renamed := by
    subst hnamed
    exact ⟨hkept.registry, hkept.declarations, Or.inr hkept.table, hkept.plan, hkept.collision⟩
  refine ⟨_, (named.respelled edited p).state.2, hgiven, hframe', ?_⟩
  simp only [Attempt.into, Attempt.success, Attempt.andThen, hnamed]
  rcases hrespelled.cases with ⟨_, hrespell⟩ | ⟨cause, hconflict, hrespell⟩
  · refine Or.inr ⟨?_, ?_⟩
    · subst hnamed
      exact hkept.table
    · rewrite [hrespell]
      rfl
  · refine Or.inl ⟨cause, hconflict, ?_⟩
    rewrite [hrespell]
    rfl

/-- What the last steps leave behind is up to the plan. -/
theorem finish_outcome (u : Session) (source : Source) (id : DeclarationId)
    (d renamed : Declaration) (p : Policy) :
    (u.finish source id d renamed p).state.2 = source ∧
      (u.finish source id d renamed p).failure? = (u.planFile id renamed).failure? ∧
      Alike (u.planFile id renamed).state (u.finish source id d renamed p).state.1 := by
  unfold finish
  generalize u.planFile id renamed = a
  obtain ⟨result, state⟩ := a
  cases result with
  | error cause => exact ⟨rfl, rfl, Alike.refl state⟩
  | ok newPath => exact ⟨rfl, rfl, ⟨rfl, rfl, rfl⟩, rfl, rfl⟩

/-- `u` is `s` after the declaration `id`, which was `d`, claimed the short name `new` and got it.
Nothing is planned yet. -/
structure Halfway (s u : Session) (id : DeclarationId) (d : Declaration) (new : Name) : Prop where
  found : s.declarations[id]? = some d
  granted : s.Grants id d new
  registry : u.registry = (s.registry.register d.name (Name.qualify d.space new)).registry
  declarations : u.declarations = s.declarations.set id { d with shortName := new }
  table : u.table = s.table ∨ u.table = s.table.rename d.name id { d with shortName := new }
  plan : u.plan = s.plan
  collision : u.collision = s.collision

/-- **What a call does, also one that fails.**  It leaves everything as it is, because the session
is closed or there is no new name or it is refused.  Or the declaration gets the new name, and the
call fails because edits overlap, or ends as the planning of the move does. -/
theorem apply_outcome (s : Session) (source : Source) (id : DeclarationId) (newName : Option Name)
    (p : Policy) :
    (Alike s (s.apply source id newName p).state.1 ∧
      (∀ cause, (s.apply source id newName p).failure? = some cause → cause = .finalized) ∧
      ∀ d new, s.finalized = false → s.declarations[id]? = some d → newName = some new →
        new ≠ d.shortName → ¬s.Grants id d new) ∨
    ∃ d new u, newName = some new ∧ new ≠ d.shortName ∧ Halfway s u id d new ∧
      ((s.apply source id newName p).conflicts = true ∧ (s.apply source id newName p).state.1 = u ∨
        u.table = s.table.rename d.name id { d with shortName := new } ∧
        (s.apply source id newName p).failure? =
          (u.planFile id { d with shortName := new }).failure? ∧
        Alike (u.planFile id { d with shortName := new }).state
          (s.apply source id newName p).state.1) := by
  rcases apply_eq s source id newName p with ⟨hclosed, happly⟩ | ⟨-, ⟨hsame, happly⟩ |
    ⟨d, new, hfound, hnew, hdiffers, ⟨hrefused, reason, events, happly⟩ | ⟨hgrants, happly⟩⟩⟩
  · rw [happly]
    refine Or.inl ⟨Alike.refl s, ?_, ?_⟩
    · rintro cause ⟨rfl⟩
      rfl
    · intro d new hopen
      rw [hclosed] at hopen
      cases hopen
  · rw [happly]
    -- There is no new name, or it is the one the declaration has.
    refine Or.inl ⟨Alike.refl s, nofun, ?_⟩
    intro d new _ hfound hnew hdiffers
    exact absurd (hsame d new hfound hnew) hdiffers
  · rw [happly]
    -- The call was refused, and only what is told about it is new.
    refine Or.inl ⟨⟨⟨rfl, rfl, rfl⟩, rfl, rfl⟩, nofun, ?_⟩
    intro e other _ hfound' hnew' _
    obtain rfl := Option.some.inj (hfound.symm.trans hfound')
    obtain rfl := Option.some.inj (hnew.symm.trans hnew')
    exact hrefused
  · rw [happly]
    -- The name is claimed first, so what is carried out starts from the session with the claim.
    obtain ⟨u, after, hu, -, hend⟩ := carryOut_outcome
      (s.register d.name (Name.qualify d.space new)).2 source id d new p
    rw [register_table] at hend
    have hhalfway : Halfway s u id d new :=
      { found := hfound
        granted := hgrants
        registry := by rw [hu.registry, register_registry]
        declarations := by rw [hu.declarations, register_declarations]
        table := by simpa using hu.table
        plan := by rw [hu.plan, register_plan]
        collision := by rw [hu.collision, register_collision] }
    refine Or.inr ⟨d, new, u, hnew, hdiffers, hhalfway, ?_⟩
    rcases hend with ⟨cause, hconflict, hcarry⟩ | ⟨hrenamed, hcarry⟩
    · rw [hcarry]
      exact Or.inl ⟨hconflict, rfl⟩
    · rw [hcarry]
      exact Or.inr ⟨hrenamed, (finish_outcome u after id d _ p).2⟩

/-- A file stays where it is and keeps its declarations. -/
theorem frame_apply (s : Session) (source : Source) (id : DeclarationId)
    (newName : Option Name) (p : Policy) :
    (s.apply source id newName p).state.2.frame = source.frame := by
  rcases apply_eq s source id newName p with ⟨-, happly⟩ | ⟨-, ⟨-, happly⟩ |
    ⟨d, new, -, -, -, ⟨-, reason, events, happly⟩ | ⟨-, happly⟩⟩⟩
  · rw [happly]
    rfl
  · rw [happly]
    rfl
  · rw [happly]
    rfl
  · rw [happly]
    obtain ⟨u, after, -, hframe, ⟨cause, -, hcarry⟩ | ⟨-, hcarry⟩⟩ := carryOut_outcome
      (s.register d.name (Name.qualify d.space new)).2 source id d new p
    · rw [hcarry]
      exact hframe
    · rw [hcarry, (finish_outcome u after id d _ p).1, hframe]

end Session

end Rechristen
