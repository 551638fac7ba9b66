import Rechristen.Proofs.Session.Origins

/-!
# Refused names

A declaration is refused a new name for one of three reasons: another declaration is called so, its
old name leads elsewhere in the registry, or another old name leads to the new one already.  The
last two do not count if old and new name differ in letter case only.

The decision is made in two places, the second of which is the step that registers the rename.  It
leaves no trace in the session nevertheless: a refused name is told as one diagnostic, and a call
that asks for no other name is not told at all (`refused_rename`).
-/

namespace Rechristen

namespace Session

variable {s t : Session} {id : DeclarationId} {d : Declaration} {new : Name} {p : Policy}

/-- The session refuses to call a declaration, which is `d` in the list, by the short name `new`:
another declaration has it, or the old and the new name differ in more than letter case and the
registry leads from the old one elsewhere, or from some other name to the new one. -/
def Refuses (s : Session) (id : DeclarationId) (d : Declaration) (new : Name) : Prop :=
  (∃ owner, s.table.get? (Name.qualify d.space new) = some owner ∧ owner ≠ id) ∨
    d.name.key ≠ (Name.qualify d.space new).key ∧
      ((∃ target, s.registry.lookup d.name = some target ∧
          target.key ≠ (Name.qualify d.space new).key) ∨
        ∃ e ∈ s.registry.entries,
          e.old.key ≠ d.name.key ∧ e.new.key = (Name.qualify d.space new).key)

/-- A name is refused or granted. -/
theorem refuses_iff_not_grants : s.Refuses id d new ↔ ¬s.Grants id d new := by
  unfold Refuses Grants
  rw [not_and_or, Bool.not_eq_true, Registry.refused_register_iff]
  refine or_congr_left ?_
  unfold DeclarationTable.rival?
  cases s.table.get? (Name.qualify d.space new) with
  | none => simp
  | some owner => simp [Option.filter_some]

/-- A renaming that is carried out does not come to nothing. -/
theorem carryOut_ne_none (source : Source) :
    (s.carryOut source id d new p).result ≠ .ok none := by
  intro hnone
  obtain ⟨-, -, -, ⟨newPath, hrecord⟩, -⟩ := carryOut_ok (Attempt.eq_of_result hnone)
  cases hrecord

/-- **A refused name leaves no trace.**  A call on an open session gives no record if and only if it
asks for no other name or is refused the name.  Then the file and the session are as before, but for
what is told: one diagnostic about the name if there was another one, and none otherwise. -/
theorem refused_rename (s : Session) (source : Source) (id : DeclarationId) {d : Declaration}
    (newName : Option Name) (p : Policy) (hopen : s.finalized = false)
    (hfound : s.declarations[id]? = some d) :
    ((s.apply source id newName p).result = .ok none ↔
      ∀ new ∈ newName, new ≠ d.shortName → s.Refuses id d new) ∧
    ((s.apply source id newName p).result = .ok none →
      ∃ told events, (s.apply source id newName p).state =
          ({ s with diagnostics := s.diagnostics ++ told, log := s.log ++ events }, source) ∧
        (∀ new ∈ newName, new ≠ d.shortName →
          ∃ reason, told = [refusal p d (Name.qualify d.space new) reason]) ∧
        ((∀ new ∈ newName, new = d.shortName) → told = [])) := by
  rcases apply_eq s source id newName p with ⟨hclosed, -⟩ | ⟨-, ⟨hsame, happly⟩ |
    ⟨e, new, hfound', rfl, hdiffers, hclaim⟩⟩
  · rw [hopen] at hclosed
    cases hclosed
  · rw [happly]
    -- Nothing else was asked for, so there is nothing to tell.
    have hnone : ∀ new ∈ newName, new = d.shortName := fun new hnew => hsame d new hfound hnew
    refine ⟨iff_of_true rfl fun new hnew hdiffers => absurd (hnone new hnew) hdiffers, fun _ => ?_⟩
    refine ⟨[], [], ?_, fun new hnew hdiffers => absurd (hnone new hnew) hdiffers, fun _ => rfl⟩
    simp only [Attempt.success, List.append_nil]
  · obtain rfl := Option.some.inj (hfound.symm.trans hfound')
    rcases hclaim with ⟨hrefused, reason, events, happly⟩ | ⟨hgrants, happly⟩
    · rw [happly]
      refine ⟨iff_of_true rfl ?_, fun _ => ⟨[refusal p d (Name.qualify d.space new) reason], events,
        rfl, ?_, fun hsame => absurd (hsame new rfl) hdiffers⟩⟩
      · rintro _ ⟨rfl⟩ -
        exact refuses_iff_not_grants.2 hrefused
      · rintro _ ⟨rfl⟩ -
        exact ⟨reason, rfl⟩
    · rw [happly]
      -- A granted name is carried out or fails on the way; either way the call does not come to
      -- nothing.
      refine ⟨iff_of_false (carryOut_ne_none source) fun hrefused => ?_,
        fun hnone => absurd hnone (carryOut_ne_none source)⟩
      exact refuses_iff_not_grants.1 (hrefused new rfl hdiffers) hgrants

/-- Two classes.  Of two other renames one leads to `App\Base`, and the other away from the name
that the second class has. -/
def crowded : Session :=
  { opened false .firstWins [classIn "Entity", classIn "Order"] with
    registry :=
      Registry.registerAll {} [⟨"App\\Gone", "App\\Base"⟩, ⟨"App\\Order", "App\\Task"⟩] }

/-- The file of the classes. -/
def crowdedFile : Source :=
  { path := ⟨"", ["Entity.php"]⟩, content := [] }

/-- Every reason for a refusal, and a name that differs from the old one in letter case only. -/
theorem refused_rename_crowded :
    (crowded.apply crowdedFile 0 (some "order") Policy.valueObject).result = .ok none ∧
    (crowded.apply crowdedFile 1 (some "Job") Policy.valueObject).result = .ok none ∧
    (crowded.apply crowdedFile 0 (some "Base") Policy.valueObject).result = .ok none ∧
    (crowded.apply crowdedFile 0 (some "ENTITY") Policy.valueObject).result ≠ .ok none ∧
    ∃ reason events, (crowded.apply crowdedFile 0 (some "Base") Policy.valueObject).state =
      ({ crowded with
          diagnostics := [refusal Policy.valueObject (classIn "Entity") "App\\Base" reason]
          log := crowded.log ++ events }, crowdedFile) := by
  have hopen : crowded.finalized = false := by decide +kernel
  have hentity : crowded.declarations[0]? = some (classIn "Entity") := by decide +kernel
  have horder : crowded.declarations[1]? = some (classIn "Order") := by decide +kernel
  have hqualify : Name.qualify (classIn "Entity").space "Base" = "App\\Base" := by decide +kernel
  obtain ⟨hrival, -⟩ :=
    refused_rename crowded crowdedFile 0 (some "order") Policy.valueObject hopen hentity
  obtain ⟨hleads, -⟩ :=
    refused_rename crowded crowdedFile 1 (some "Job") Policy.valueObject hopen horder
  obtain ⟨htaken, htold⟩ :=
    refused_rename crowded crowdedFile 0 (some "Base") Policy.valueObject hopen hentity
  obtain ⟨hcase, -⟩ :=
    refused_rename crowded crowdedFile 0 (some "ENTITY") Policy.valueObject hopen hentity
  have hbase :
      (crowded.apply crowdedFile 0 (some "Base") Policy.valueObject).result = .ok none := by
    refine htaken.2 ?_
    rintro _ ⟨rfl⟩ -
    exact Or.inr ⟨by decide +kernel, Or.inr (by decide +kernel)⟩
  refine ⟨hrival.2 ?_, hleads.2 ?_, hbase, fun hnone => ?_, ?_⟩
  · rintro _ ⟨rfl⟩ -
    exact Or.inl ⟨1, by decide +kernel, by decide⟩
  · rintro _ ⟨rfl⟩ -
    exact Or.inr ⟨by decide +kernel, Or.inl ⟨"App\\Task", by decide +kernel, by decide +kernel⟩⟩
  · rcases hcase.1 hnone "ENTITY" rfl (by decide) with ⟨owner, howner, hother⟩ | ⟨hkeys, -⟩
    · have hown : crowded.table.get? (Name.qualify (classIn "Entity").space "ENTITY") = some 0 := by
        decide +kernel
      exact hother (Option.some.inj (howner.symm.trans hown))
    · exact hkeys (by decide +kernel)
  · obtain ⟨told, events, hstate, hone, -⟩ := htold hbase
    obtain ⟨reason, rfl⟩ := hone "Base" rfl (by decide)
    have hbefore : crowded.diagnostics = [] := by decide +kernel
    refine ⟨reason, events, ?_⟩
    rw [hstate, hbefore, hqualify, List.nil_append]

end Session

end Rechristen
