import Rechristen.Proofs.Session.Origins

/-!
# The table knows every declaration by the name it has now

Declarations are entered into the table one by one, and of several with one name only the first is
taken.  Those that were refused are still declarations: they can be renamed, and a renamed
declaration is in the table whether it was there before or not.  This file shows that none of this
gets the table out of step with the declarations.

Both ways of changing the table come to the same (`Indexed.mem_enter_iff`,
`Indexed.mem_rename_iff`): the entry of one declaration is put in the place of the one it had, if it
had one, and the entries of all other declarations stay.  For this the check against rivals is
needed, because a name that another declaration holds would be taken away from it.
-/

namespace Rechristen.Session

/-- Every entry of the table is for a declaration, under the key of its present name, and no key has
two entries. -/
structure Indexed (s : Session) : Prop where
  keys_nodup : (s.table.byName.map Prod.fst).Nodup
  current : ∀ e ∈ s.table.byName, ∃ d, s.declarations[e.2]? = some d ∧ e.1 = d.key

namespace Indexed

variable {s t : Session} {id : DeclarationId} {d : Declaration}

theorem key_eq (hs : s.Indexed) {e : Name.Key × DeclarationId} (he : e ∈ s.table.byName)
    (hfound : s.declarations[e.2]? = some d) : e.1 = d.key := by
  obtain ⟨d', hd', hkey⟩ := hs.current e he
  obtain rfl : d' = d := Option.some.inj (hd'.symm.trans hfound)
  exact hkey

/-- No declaration is in the table twice. -/
theorem ids_nodup (hs : s.Indexed) : s.table.ids.Nodup := by
  refine List.Nodup.map_on (fun e he f hf hid => ?_) (List.Nodup.of_map Prod.fst hs.keys_nodup)
  obtain ⟨d, hd, hkey⟩ := hs.current f hf
  rw [← hid] at hd
  exact Prod.ext ((hs.key_eq he hd).trans hkey.symm) hid

/-- No two declarations in the table have one name. -/
theorem id_eq (hs : s.Indexed) {i j : DeclarationId} {di dj : Declaration}
    (hi : i ∈ s.table.ids) (hj : j ∈ s.table.ids) (hdi : s.declarations[i]? = some di)
    (hdj : s.declarations[j]? = some dj) (hkey : di.key = dj.key) : i = j := by
  obtain ⟨e, he, rfl⟩ := List.mem_map.1 hi
  obtain ⟨f, hf, rfl⟩ := List.mem_map.1 hj
  have hsame : e.1 = f.1 := (hs.key_eq he hdi).trans (hkey.trans (hs.key_eq hf hdj).symm)
  have hfind := DeclarationTable.find?_of_mem hs.keys_nodup he
  rw [hsame, DeclarationTable.find?_of_mem hs.keys_nodup hf] at hfind
  exact (Option.some.inj hfind).symm

/-- A name without a rival is held by the declaration itself or by none. -/
theorem eq_of_unrivalled (hs : s.Indexed) {name : Name} (hrival : s.table.rival? name id = none)
    {e : Name.Key × DeclarationId} (he : e ∈ s.table.byName) (hkey : e.1 = name.key) :
    e.2 = id := by
  refine DeclarationTable.rival?_eq_none_iff.1 hrival e.2 ?_
  rw [← hkey]
  exact DeclarationTable.find?_of_mem hs.keys_nodup he

/-! ## One entry is replaced -/

theorem mem_enter_iff (hs : s.Indexed) (hfound : s.declarations[id]? = some d)
    (hrival : s.table.rival? d.name id = none) (e : Name.Key × DeclarationId) :
    e ∈ (s.table.enter id d).byName ↔ e = (d.key, id) ∨ e ∈ s.table.byName ∧ e.2 ≠ id := by
  rw [DeclarationTable.mem_enter_iff]
  refine or_congr_right (and_congr_right fun he => not_congr ?_)
  exact ⟨hs.eq_of_unrivalled hrival he, fun hid => hs.key_eq he (by rw [hid, hfound])⟩

theorem mem_rename_iff (hs : s.Indexed) (hfound : s.declarations[id]? = some d) {d' : Declaration}
    (hrival : s.table.rival? d'.name id = none) (e : Name.Key × DeclarationId) :
    e ∈ (s.table.rename d.name id d').byName ↔
      e = (d'.key, id) ∨ e ∈ s.table.byName ∧ e.2 ≠ id := by
  rw [DeclarationTable.mem_rename_iff]
  refine or_congr_right (and_congr_right fun he => ⟨fun hkept hid => ?_, fun hid => ⟨?_, ?_⟩⟩)
  · -- The entry the declaration had stood under its old key, and that key was cleared.
    have hkey : e.1 = d.key := hs.key_eq he (by rw [hid, hfound])
    refine hkept.1 ⟨?_, hkey⟩
    rw [← hid, ← DeclarationTable.find?_of_mem hs.keys_nodup he, hkey]
    rfl
  · rintro ⟨hheld, hkey⟩
    have hfind := DeclarationTable.find?_of_mem hs.keys_nodup he
    rw [hkey] at hfind
    exact hid (Option.some.inj (hfind.symm.trans hheld))
  · exact fun hkey => hid (hs.eq_of_unrivalled hrival he hkey)

/-- If the entry of `id` alone was replaced, by one for the name it now has, the table is in step
again and no declaration was lost. -/
theorem replaced (hs : s.Indexed) (hnodup : (t.table.byName.map Prod.fst).Nodup)
    (hself : t.declarations[id]? = some d)
    (hothers : ∀ i ≠ id, t.declarations[i]? = s.declarations[i]?)
    (hentries : ∀ e, e ∈ t.table.byName ↔ e = (d.key, id) ∨ e ∈ s.table.byName ∧ e.2 ≠ id) :
    t.Indexed ∧ s.table.ids ⊆ t.table.ids := by
  refine ⟨⟨hnodup, fun e he => ?_⟩, fun i hi => ?_⟩
  · rcases (hentries e).1 he with rfl | ⟨he, hid⟩
    · exact ⟨d, hself, rfl⟩
    · rw [hothers e.2 hid]
      exact hs.current e he
  · obtain ⟨e, he, rfl⟩ := List.mem_map.1 hi
    by_cases hid : e.2 = id
    · rw [hid]
      exact List.mem_map.2 ⟨(d.key, id), (hentries _).2 (Or.inl rfl), rfl⟩
    · exact List.mem_map_of_mem ((hentries e).2 (Or.inr ⟨he, hid⟩))

theorem index (hs : s.Indexed) (id : DeclarationId) :
    (s.index id).2.Indexed ∧ s.table.ids ⊆ (s.index id).2.table.ids := by
  cases hfound : s.declarations[id]? with
  | none =>
      have hsame : (s.index id).2 = s := by simp [Session.index, hfound]
      rw [hsame]
      exact ⟨hs, List.Subset.refl _⟩
  | some d =>
      cases hrival : s.table.rival? d.name id with
      | some owner =>
          have htable : (s.index id).2.table = s.table := by
            simp [Session.index, hfound, DeclarationTable.add, hrival, note]
          rw [htable]
          refine ⟨⟨?_, ?_⟩, List.Subset.refl _⟩
          · rw [htable]
            exact hs.keys_nodup
          · rw [htable, index_declarations]
            exact hs.current
      | none =>
          have htable : (s.index id).2.table = s.table.enter id d := by
            simp [Session.index, hfound, DeclarationTable.add, hrival]
          have hself : (s.index id).2.declarations[id]? = some d := by
            rw [index_declarations, hfound]
          refine hs.replaced ?_ hself (fun i _ => by rw [index_declarations]) ?_
          · rw [htable]
            exact DeclarationTable.nodup_enter hs.keys_nodup id d
          · rw [htable]
            exact hs.mem_enter_iff hfound hrival

theorem renamed (hs : s.Indexed) {new : Name} (hrenamed : Renamed s t id d new) :
    t.Indexed ∧ s.table.ids ⊆ t.table.ids := by
  obtain ⟨d', hd', hname⟩ := hrenamed.get_self
  have hkey : { d with shortName := new }.key = d'.key := by
    rw [Declaration.key, Declaration.key, hname]
    rfl
  refine hs.replaced ?_ hd' (fun i hi => hrenamed.get_other hi) ?_
  · rw [hrenamed.table]
    exact DeclarationTable.nodup_rename hs.keys_nodup _ _ _
  · rw [hrenamed.table, ← hkey]
    exact hs.mem_rename_iff hrenamed.found hrenamed.unrivalled

end Indexed

/-! ## Any number of steps -/

/-- The sessions reached by entering declarations into the table and by calls of `apply` that
return, in any order and for any declarations, also for those that were not entered. -/
inductive Attains (s : Session) : Session → Prop
  | start : Attains s s
  | index {t : Session} (id : DeclarationId) : Attains s t → Attains s (t.index id).2
  | apply {t u : Session} {source after : Source} {id : DeclarationId} {newName : Option Name}
      {p : Policy} {record : Option RenameRecord} : Attains s t →
      t.apply source id newName p = ⟨.ok record, (u, after)⟩ → Attains s u

theorem Attains.indexAll {s t : Session} (hattains : s.Attains t) (ids : List DeclarationId) :
    s.Attains (t.indexAll ids) := by
  induction ids generalizing t with
  | nil => exact hattains
  | cons id rest ih => exact ih (hattains.index id)

/-- A call that does not fail attains the session it leaves behind. -/
theorem Attains.applied {s t : Session} {source : Source} {id : DeclarationId} {new : Name}
    {p : Policy} (hattains : s.Attains t)
    (hok : (t.apply source id (some new) p).failure? = none) :
    s.Attains (t.apply source id (some new) p).state.1 := by
  obtain ⟨record, happly⟩ := Attempt.exists_ok hok
  exact hattains.apply happly

theorem Indexed.attains {s t : Session} (hs : s.Indexed) (hattains : s.Attains t) :
    t.Indexed ∧ s.table.ids ⊆ t.table.ids := by
  induction hattains with
  | start => exact ⟨hs, List.Subset.refl _⟩
  | index id _ ih =>
      obtain ⟨hindexed, hkept⟩ := ih.1.index id
      exact ⟨hindexed, List.Subset.trans ih.2 hkept⟩
  | apply _ happly ih =>
      rcases apply_cases happly with ⟨-, hsame, -⟩ | ⟨d, new, -, -, hrenamed, -⟩
      · refine ⟨⟨?_, ?_⟩, ?_⟩
        · rw [hsame.table]
          exact ih.1.keys_nodup
        · rw [hsame.table, hsame.declarations]
          exact ih.1.current
        · rw [hsame.table]
          exact ih.2
      · obtain ⟨hindexed, hkept⟩ := ih.1.renamed hrenamed
        exact ⟨hindexed, List.Subset.trans ih.2 hkept⟩

/-- **The table is in step.**  Start with any declarations and an empty table, enter some of them
and rename some of them, in any order.  At every moment every entry is for a declaration under the
key of its present name.  So no declaration has two entries, no two declarations in the table have
one name, and a declaration that was in the table at some time stays there. -/
theorem table_in_step {dryRun : Bool} {collision : CollisionPolicy}
    {declarations : List Declaration} {s t : Session}
    (hs : (({ dryRun, collision } : Session).receive declarations).Attains s) (ht : s.Attains t) :
    (∀ key id, (key, id) ∈ t.table.byName → ∃ d, t.declarations[id]? = some d ∧ key = d.key) ∧
    (t.table.byName.map Prod.fst).Nodup ∧ t.table.ids.Nodup ∧
    (∀ i ∈ t.table.ids, ∀ j ∈ t.table.ids, ∀ di dj, t.declarations[i]? = some di →
      t.declarations[j]? = some dj → di.key = dj.key → i = j) ∧
    s.table.ids ⊆ t.table.ids := by
  have hempty : (({ dryRun, collision } : Session).receive declarations).Indexed :=
    ⟨List.nodup_nil, fun e he => by cases he⟩
  obtain ⟨hindexed, hkept⟩ := (hempty.attains hs).1.attains ht
  exact ⟨fun key id he => hindexed.current (key, id) he, hindexed.keys_nodup, hindexed.ids_nodup,
    fun i hi j hj di dj hdi hdj hkey => hindexed.id_eq hi hj hdi hdj hkey, hkept⟩

/-! ### A declaration that was refused at first -/

/-- Three classes, of which the second has the name of the first but for its case. -/
def lookalikes : List Declaration := [classIn "Entity", classIn "entity", classIn "Order"]

/-- The classes are entered, and the second is refused. -/
def lookalikesEntered : Session :=
  (({} : Session).receive lookalikes).indexAll [0, 1, 2]

/-- The second class is renamed, the first changes the case of its name, and the third takes the
name that the second gives up when it is renamed again. -/
def lookalikesRenamed : Session :=
  let file : Source := { path := ⟨"", ["Entity.php"]⟩, content := [] }
  let rename (s : Session) (id : DeclarationId) (new : Name) : Session :=
    (s.apply file id (some new) Policy.valueObject).state.1
  rename (rename (rename (rename lookalikesEntered 1 "Root") 0 "ENTITY") 1 "Base") 2 "Root"

theorem table_in_step_lookalikes :
    (({} : Session).receive lookalikes).Attains lookalikesEntered ∧
    lookalikesEntered.Attains lookalikesRenamed ∧ lookalikesEntered.table.ids = [0, 2] ∧
    (Name.key "App\\Base", 1) ∈ lookalikesRenamed.table.byName ∧
    (∃ d, lookalikesRenamed.declarations[1]? = some d ∧ Name.key "App\\Base" = d.key) ∧
    lookalikesRenamed.table.ids.Nodup ∧
    lookalikesEntered.table.ids ⊆ lookalikesRenamed.table.ids := by
  have hentered : (({} : Session).receive lookalikes).Attains lookalikesEntered :=
    Attains.start.indexAll [0, 1, 2]
  have hrenamed : lookalikesEntered.Attains lookalikesRenamed := by
    unfold lookalikesRenamed
    refine .applied (.applied (.applied (.applied .start ?_) ?_) ?_) ?_ <;> decide +kernel
  have hbase : (Name.key "App\\Base", 1) ∈ lookalikesRenamed.table.byName := by decide +kernel
  obtain ⟨hcurrent, -, hids, -, hkept⟩ := table_in_step hentered hrenamed
  exact ⟨hentered, hrenamed, by decide +kernel, hbase, hcurrent _ 1 hbase, hids, hkept⟩

end Rechristen.Session
