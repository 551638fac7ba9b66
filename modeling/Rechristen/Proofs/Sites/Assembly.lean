import Rechristen.Proofs.Keyed
import Rechristen.Proofs.Sites.Scanning

/-!
# Assembling what is found

What is found in a file is told from the nodes that are seen in it, each by itself: its
declarations, references and calls are those of the nodes, in the order of the file (`assemble`).  A
declaration has the methods of the nodes that stand in it, and of a name that comes twice the last
one.

A node adds to what was found before it (`addAt_assemble`), so scanning a file assembles what is
found at its nodes (`scanRoot_eq_assemble`).
-/

namespace Rechristen.Sites

variable {s : Source}

/-! ## What is found at all nodes -/

/-- What is found at some of all nodes that are seen, each read by itself. -/
def readAll (s : Source) (all vs : List Sighting) : Reading (List (Sighting × Found)) :=
  vs.mapM fun v => (readNode s v.space (visitOf all v)).map fun g => (v, g)

/-- What is found in a file, with the nodes at which it is found. -/
def outline (s : Source) (root : Node) : Reading (List (Sighting × Found)) :=
  readAll s (seen s root) (seen s root)

/-- The methods found in the declaration at the end of a way. -/
def methodsIn (found : List (Sighting × Found)) (way : List Nat) : List (String × List String) :=
  found.filterMap fun p => if p.1.holder = some way then p.2.method else none

/-- The declarations found, with the ways to them and without their methods. -/
def declared (found : List (Sighting × Found)) : List (List Nat × Declaration) :=
  found.filterMap fun p => p.2.declaration.map fun d => (p.1.way, d)

/-- All that is found at some nodes. -/
def assemble (found : List (Sighting × Found)) : Findings where
  declarations := (declared found).map fun d =>
    { d.2 with methods := Keyed.lastOfEach Prod.fst (methodsIn found d.1) }
  references := found.flatMap fun p => p.2.references
  calls := found.filterMap fun p => p.2.call

/-- What was found so far, with what is found at one more of all nodes. -/
def addAt (all : List Sighting) (f : Findings) (p : Sighting × Found) : Findings :=
  f.add (p.1.holder.bind (placeOf all)) p.2

theorem readAll_cons (s : Source) (all : List Sighting) (v : Sighting) (vs : List Sighting) :
    readAll s all (v :: vs) = do
      let g ← readNode s v.space (visitOf all v)
      let found ← readAll s all vs
      return (v, g) :: found := by
  unfold readAll
  rw [List.mapM_cons]
  cases readNode s v.space (visitOf all v) <;> rfl

theorem foldlM_look (all vs : List Sighting) (f : Findings) :
    vs.foldlM (look s all) f =
      (readAll s all vs).map fun found => found.foldl (addAt all) f := by
  induction vs generalizing f with
  | nil => rfl
  | cons v vs ih =>
      rw [List.foldlM_cons, readAll_cons, look]
      cases readNode s v.space (visitOf all v) with
      | error disorder => rfl
      | ok g =>
          refine (ih _).trans ?_
          cases readAll s all vs <;> rfl

/-- What is found is found at the nodes that are seen, each read by itself. -/
theorem readAll_ok {all vs : List Sighting} {found : List (Sighting × Found)}
    (hfound : readAll s all vs = .ok found) :
    found.map Prod.fst = vs ∧
      ∀ p ∈ found, readNode s p.1.space (visitOf all p.1) = .ok p.2 := by
  induction vs generalizing found with
  | nil =>
      cases hfound
      exact ⟨rfl, by simp⟩
  | cons v vs ih =>
      rw [readAll_cons] at hfound
      cases hg : readNode s v.space (visitOf all v) with
      | error disorder => rw [hg] at hfound; cases hfound
      | ok g =>
          rw [hg] at hfound
          cases hrest : readAll s all vs with
          | error disorder => rw [hrest] at hfound; cases hfound
          | ok rest =>
              rw [hrest] at hfound
              cases hfound
              obtain ⟨hvs, hread⟩ := ih hrest
              exact ⟨congrArg (v :: ·) hvs, List.forall_mem_cons.2 ⟨hg, hread⟩⟩

/-! ## Assembling what is found -/

/-- What is found, in the order of the file. -/
structure Orderly (found : List (Sighting × Found)) : Prop where
  sorted : found.Pairwise fun a b => Precedes a.1.way b.1.way
  holder : ∀ p ∈ found, ∀ way, p.1.holder = some way → Precedes way p.1.way
  declares : ∀ p ∈ found, p.2.declaration.isSome = declares p.1.node
  bare : ∀ p ∈ found, ∀ d, p.2.declaration = some d → d.methods = [] ∧ p.2.method = none

theorem Orderly.nodup_ways {found : List (Sighting × Found)} (hfound : Orderly found) :
    ((found.map Prod.fst).map Sighting.way).Nodup := by
  rw [List.map_map]
  exact List.pairwise_map.2 (hfound.sorted.imp Precedes.ne)

theorem putMethod_eq (d : Declaration) (m : String × List String) :
    d.putMethod m.1 m.2 = { d with methods := Keyed.upsert Prod.fst d.methods m } := by
  unfold Declaration.putMethod Keyed.upsert
  by_cases hany : (d.methods.any fun n => n.1 == m.1) = true
  · rw [if_pos hany, if_pos (by simpa using hany)]
    simp only [beq_iff_eq]
  · rw [if_neg hany, if_neg (by simpa using hany)]

/-- What is changed at the place of a key is what stands under the key. -/
theorem modify_idxOf? {α : Type} {xs : List (List Nat × α)} {later : List (List Nat)}
    (hnodup : (xs.map Prod.fst ++ later).Nodup) {way : List Nat} {i : Nat}
    (hi : (xs.map Prod.fst ++ later).idxOf? way = some i) (f : List Nat × α → Declaration)
    (g : Declaration → Declaration) :
    (xs.map f).modify i g = xs.map fun x => if x.1 = way then g (f x) else f x := by
  obtain ⟨hlt, hway, -⟩ := List.idxOf?_eq_some_iff.1 hi
  refine List.ext_getElem? fun j => ?_
  rw [List.getElem?_modify, List.getElem?_map, List.getElem?_map]
  cases hx : xs[j]? with
  | none => rfl
  | some x =>
      obtain ⟨hj, hx⟩ := List.getElem?_eq_some_iff.1 hx
      have hlength : j < (xs.map Prod.fst ++ later).length := by simp; omega
      have hkey : (xs.map Prod.fst ++ later)[j] = x.1 := by
        rw [List.getElem_append_left (by simpa using hj), List.getElem_map, hx]
      have hsame : i = j ↔ x.1 = way := by
        rw [← hkey, ← hway, hnodup.getElem_inj_iff]
        exact eq_comm
      by_cases hij : i = j
      · simp [hij, hsame.1 hij]
      · have hne : x.1 ≠ way := fun h => hij (hsame.2 h)
        simp [hij, hne]

theorem methodsIn_append (found : List (Sighting × Found)) (p : Sighting × Found)
    (way : List Nat) :
    methodsIn (found ++ [p]) way =
      methodsIn found way ++ (if p.1.holder = some way then p.2.method else none).toList := by
  unfold methodsIn
  rw [List.filterMap_append]
  congr 1

theorem declared_append (found : List (Sighting × Found)) (p : Sighting × Found) :
    declared (found ++ [p]) =
      declared found ++ (p.2.declaration.map fun d => (p.1.way, d)).toList := by
  unfold declared
  rw [List.filterMap_append]
  congr 1

theorem map_declared {found : List (Sighting × Found)}
    (hfound : ∀ p ∈ found, p.2.declaration.isSome = declares p.1.node) :
    (declared found).map Prod.fst = declaredWays (found.map Prod.fst) := by
  induction found with
  | nil => rfl
  | cons p rest ih =>
      obtain ⟨hp, hrest⟩ := List.forall_mem_cons.1 hfound
      have hlater := ih hrest
      unfold declared declaredWays at hlater ⊢
      cases hdeclaration : p.2.declaration with
      | none =>
          rw [hdeclaration] at hp
          simpa [hdeclaration, ← hp] using hlater
      | some d =>
          rw [hdeclaration] at hp
          simpa [hdeclaration, ← hp] using hlater

/-- The declarations found so far are the first of all. -/
theorem Orderly.declaredWays_eq {done later : List (Sighting × Found)}
    (hfound : Orderly (done ++ later)) :
    declaredWays ((done ++ later).map Prod.fst) =
      (declared done).map Prod.fst ++ declaredWays (later.map Prod.fst) := by
  rw [List.map_append, declaredWays_append,
    map_declared fun q hq => hfound.declares q (List.mem_append_left later hq)]

/-- What stands in a declaration is found after it. -/
theorem methodsIn_eq_nil {done later : List (Sighting × Found)} {p : Sighting × Found}
    (hfound : Orderly (done ++ p :: later)) : methodsIn done p.1.way = [] := by
  unfold methodsIn
  rw [List.filterMap_eq_nil_iff]
  intro q hq
  have hbefore : Precedes q.1.way p.1.way :=
    (List.pairwise_append.1 hfound.sorted).2.2 q hq p List.mem_cons_self
  refine if_neg fun hholder => ?_
  exact hbefore.asymm (hfound.holder q (List.mem_append_left _ hq) _ hholder)

/-- A node that is no method of a declaration found before leaves those declarations as they
are. -/
theorem declarations_assemble {done : List (Sighting × Found)} {p : Sighting × Found}
    (hother : ∀ d ∈ declared done, p.1.holder = some d.1 → p.2.method = none) :
    ((declared done).map fun d =>
        { d.2 with methods := Keyed.lastOfEach Prod.fst (methodsIn (done ++ [p]) d.1) }) =
      (assemble done).declarations := by
  refine List.map_congr_left fun d hd => ?_
  have hmethods : methodsIn (done ++ [p]) d.1 = methodsIn done d.1 := by
    rw [methodsIn_append]
    by_cases hholder : p.1.holder = some d.1
    · simp [hholder, hother d hd hholder]
    · simp [hholder]
  rw [hmethods]

/-- A node that declares something comes last. -/
theorem declarations_of_declaration {done later : List (Sighting × Found)}
    {p : Sighting × Found} (hfound : Orderly (done ++ p :: later)) {d : Declaration}
    (hd : p.2.declaration = some d) :
    (assemble (done ++ [p])).declarations = (assemble done).declarations ++ [d] := by
  obtain ⟨hbare, hmethod⟩ := hfound.bare p (by simp) d hd
  have hnone : methodsIn (done ++ [p]) p.1.way = [] := by
    rw [methodsIn_append, methodsIn_eq_nil hfound, hmethod]
    simp
  have hlast : Keyed.lastOfEach Prod.fst (methodsIn (done ++ [p]) p.1.way) = d.methods := by
    rw [hnone, hbare]
    rfl
  rw [assemble, declared_append, hd, List.map_append,
    declarations_assemble fun _ _ _ => hmethod]
  simp [hlast]

/-- A method goes to the declaration in which it stands. -/
theorem declarations_of_method {done later : List (Sighting × Found)} {p : Sighting × Found}
    (hfound : Orderly (done ++ p :: later)) (hd : p.2.declaration = none)
    {m : String × List String} (hm : p.2.method = some m) {way : List Nat}
    (hway : p.1.holder = some way) {i : Nat}
    (hi : placeOf ((done ++ p :: later).map Prod.fst) way = some i) :
    (assemble (done ++ [p])).declarations =
      (assemble done).declarations.modify i (·.putMethod m.1 m.2) := by
  have hnodup : (declaredWays ((done ++ p :: later).map Prod.fst)).Nodup :=
    hfound.nodup_ways.sublist (List.filter_sublist.map _)
  unfold placeOf at hi
  rw [hfound.declaredWays_eq] at hi hnodup
  have hmodify := modify_idxOf? hnodup hi (fun d : List Nat × Declaration =>
    { d.2 with methods := Keyed.lastOfEach Prod.fst (methodsIn done d.1) })
    (·.putMethod m.1 m.2)
  refine Eq.trans ?_ hmodify.symm
  rw [assemble, declared_append, hd, Option.map_none, Option.toList_none, List.append_nil]
  refine List.map_congr_left fun d _ => ?_
  rw [methodsIn_append, hway, hm]
  by_cases hsame : d.1 = way
  · rw [if_pos (congrArg some hsame.symm), if_pos hsame, putMethod_eq, Option.toList_some,
      Keyed.lastOfEach_append]
  · rw [if_neg fun h => hsame (Option.some.inj h).symm, if_neg hsame, Option.toList_none,
      List.append_nil]

/-- One node more in the order of the file. -/
theorem addAt_assemble {done later : List (Sighting × Found)} {p : Sighting × Found}
    (hfound : Orderly (done ++ p :: later)) :
    addAt ((done ++ p :: later).map Prod.fst) (assemble done) p = assemble (done ++ [p]) := by
  have hreferences : (assemble (done ++ [p])).references =
      (assemble done).references ++ p.2.references := by simp [assemble]
  have hcalls : (assemble (done ++ [p])).calls = (assemble done).calls ++ p.2.call.toList := by
    simp only [assemble, List.filterMap_append]
    congr 1
  have hdeclarations : (addAt ((done ++ p :: later).map Prod.fst) (assemble done) p).declarations =
      (assemble (done ++ [p])).declarations := by
    unfold addAt Findings.add
    cases hd : p.2.declaration with
    | some d => exact (declarations_of_declaration hfound hd).symm
    | none =>
        -- Only a method changes a declaration, and only the one in which it stands.
        have hsame (hother : ∀ d ∈ declared done, p.1.holder = some d.1 → p.2.method = none) :
            (assemble (done ++ [p])).declarations = (assemble done).declarations := by
          rw [← declarations_assemble hother, assemble, declared_append, hd]
          simp
        cases hm : p.2.method with
        | none =>
            cases p.1.holder.bind (placeOf ((done ++ p :: later).map Prod.fst)) <;>
              exact (hsame fun _ _ _ => hm).symm
        | some m =>
            cases hway : p.1.holder with
            | none => exact (hsame (by simp [hway])).symm
            | some way =>
                cases hi : placeOf ((done ++ p :: later).map Prod.fst) way with
                | some i =>
                    simp only [Option.bind_some, hi]
                    exact (declarations_of_method hfound hd hm hway hi).symm
                | none =>
                    simp only [Option.bind_some, hi]
                    refine (hsame fun d hmem hholder => ?_).symm
                    obtain rfl : way = d.1 := Option.some.inj (hway.symm.trans hholder)
                    rw [placeOf, List.idxOf?_eq_none_iff, hfound.declaredWays_eq] at hi
                    exact absurd (List.mem_append_left _ (List.mem_map_of_mem hmem)) hi
  calc addAt ((done ++ p :: later).map Prod.fst) (assemble done) p
      = ⟨(addAt ((done ++ p :: later).map Prod.fst) (assemble done) p).declarations,
          (assemble done).references ++ p.2.references,
          (assemble done).calls ++ p.2.call.toList⟩ := rfl
    _ = assemble (done ++ [p]) := by rw [hdeclarations, ← hreferences, ← hcalls]

theorem foldl_addAt {done later : List (Sighting × Found)} (hfound : Orderly (done ++ later)) :
    later.foldl (addAt ((done ++ later).map Prod.fst)) (assemble done) =
      assemble (done ++ later) := by
  induction later generalizing done with
  | nil => rw [List.append_nil, List.foldl_nil]
  | cons p later ih =>
      rw [List.foldl_cons, addAt_assemble hfound]
      rw [List.append_cons] at hfound ⊢
      exact ih hfound

/-- What is found at a declaring node is a declaration without methods, and no method. -/
theorem methods_declaration {space : Name} {v : Visit} {g : Found}
    (hg : readNode s space v = .ok g) {d : Declaration} (hd : g.declaration = some d) :
    d.methods = [] ∧ g.method = none := by
  obtain ⟨hdeclaration, -, -, hmethod⟩ := readNode_ok hg
  obtain ⟨hsome, hbare⟩ := declarationAt_ok hdeclaration
  refine ⟨hbare d hd, ?_⟩
  rw [hd] at hsome
  obtain ⟨kind, hkind⟩ := Option.isSome_iff_exists.1 (Bool.and_eq_true_iff.1 hsome.symm).1
  rw [hmethod, methodAt_of_ne (callKind?_of_declarationKind? hkind).2.1]

theorem orderly_of_outline {root : Node} {found : List (Sighting × Found)}
    (hfound : outline s root = .ok found) : Orderly found := by
  obtain ⟨hseen, hread⟩ := readAll_ok hfound
  refine ⟨?_, ?_, ?_, ?_⟩
  · have hsorted := pairwise_seen s root
    rwa [← hseen, List.pairwise_map] at hsorted
  · intro p hp way hway
    have hmem : p.1 ∈ seen s root := hseen ▸ List.mem_map_of_mem hp
    exact (stands_of_mem_seen hmem).precedes_holder hway
  · intro p hp
    exact isSome_declaration (hread p hp)
  · intro p hp d hd
    exact methods_declaration (hread p hp) hd

/-- What is found in a file is what is found at its nodes. -/
theorem scanRoot_eq_assemble (s : Source) (root : Node) :
    scanRoot s root "" [] {} root.children =
      (outline s root).map fun found => (spacesOf s root.children, assemble found) := by
  rw [scanRoot_eq, foldlM_look]
  cases hfound : outline s root with
  | error disorder =>
      unfold outline at hfound
      rw [hfound]
      rfl
  | ok found =>
      have hassemble : found.foldl (addAt (found.map Prod.fst)) {} = assemble found :=
        @foldl_addAt [] found (orderly_of_outline hfound)
      rw [(readAll_ok hfound).1] at hassemble
      unfold outline at hfound
      rw [hfound]
      simp only [Except.map, hassemble]

end Rechristen.Sites
