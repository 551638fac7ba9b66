import Rechristen.Proofs.Sites.Places
import Rechristen.Proofs.Sites.Sightings

/-!
# Scanning a file

The sites of a file are collected with a list of nodes that wait to be visited, each with the number
of the declaration it stands in.  This file shows that the nodes are visited as they are seen, and
with the declarations in which they are seen: scanning is a fold over what is seen (`scanRoot_eq`).

What is found at a node does not depend on what was found before (`Found`, `see_eq`).  The number of
a declaration is that of the declaring nodes seen before it (`placeOf_way`), and it is known when
the node is visited, because as many declarations were found.
-/

namespace Rechristen.Sites

variable {s : Source} {space : Name}

/-! ## One node by itself -/

/-- What is found at one node. -/
structure Found where
  declaration : Option Declaration := none
  references : List Reference := []
  /-- A method and its parameters. -/
  method : Option (String × List String) := none
  call : Option CallFinding := none

/-- The references at a node: the imports of an import declaration, or the name of a class. -/
def referencesAt (s : Source) (space : Name) (parent n : Node) : Reading (List Reference) :=
  if n.kind == "namespace_use_declaration" then importsOf s space n
  else if isClassName n then Option.toList <$> referenceOf s space parent n
  else return []

/-- The declaration a node makes. -/
def declarationAt (s : Source) (space : Name) (n : Node) : Reading (Option Declaration) :=
  match declarationKind? n.kind with
  | some kind => declarationOf s space kind n
  | none => return none

/-- The call a node makes. -/
def callAt (s : Source) (space : Name) (enclosing : Option Nat) (n : Node) :
    Reading (Option CallFinding) :=
  match callKind? n.kind with
  | some kind => callOf s space enclosing kind n
  | none => return none

/-- The method a node is. -/
def methodAt (s : Source) (n : Node) : Option (String × List String) :=
  if n.kind == "method_declaration" then methodOf? s n else none

theorem methodAt_of_ne {n : Node} (hkind : n.kind ≠ "method_declaration") :
    methodAt s n = none :=
  if_neg (by simpa using hkind)

/-- What is found at a node. -/
def readNode (s : Source) (space : Name) (v : Visit) : Reading Found := do
  let declaration ← declarationAt s space v.node
  let references ← referencesAt s space v.parent v.node
  let call ← callAt s space v.enclosing v.node
  return { declaration, references, method := methodAt s v.node, call }

/-- What was found so far, with what is found at a node that stands in a declaration. -/
def Findings.add (f : Findings) (enclosing : Option Nat) (g : Found) : Findings where
  declarations :=
    match g.declaration, enclosing, g.method with
    | some d, _, _ => f.declarations ++ [d]
    | none, some i, some m => f.declarations.modify i (·.putMethod m.1 m.2)
    | none, _, _ => f.declarations
  references := f.references ++ g.references
  calls := f.calls ++ g.call.toList

/-- The declaration in which the children of a node stand, if they are visited, after some
declarations were found. -/
def nextEnclosing (declared : Nat) (v : Visit) : Option (Option Nat) :=
  if v.node.Opens then
    some (if declares v.node then some declared
      else if v.node.kind == "anonymous_class" then none else v.enclosing)
  else none

/-- A node makes a declaration, a call, or neither. -/
theorem callKind?_of_declarationKind? {kind : String} {declared : Kind}
    (hkind : declarationKind? kind = some declared) :
    callKind? kind = none ∧ kind ≠ "method_declaration" ∧ kind ≠ "anonymous_class" ∧
      kind ≠ "namespace_use_declaration" ∧ kind ≠ "name" ∧ kind ≠ "qualified_name" := by
  unfold declarationKind? at hkind
  split at hkind
  case h_5 => cases hkind
  all_goals exact ⟨rfl, by decide, by decide, by decide, by decide, by decide⟩

/-- An import makes neither a declaration nor a call. -/
theorem readNode_import {v : Visit} (hkind : v.node.kind = "namespace_use_declaration") :
    readNode s space v = (importsOf s space v.node).map fun found => { references := found } := by
  have hmade : declarationAt s space v.node = .ok none ∧
      callAt s space v.enclosing v.node = .ok none ∧ methodAt s v.node = none := by
    unfold declarationAt callAt methodAt
    rw [hkind]
    exact ⟨rfl, rfl, rfl⟩
  unfold readNode referencesAt
  rw [hmade.1, hmade.2.1, hmade.2.2, hkind]
  cases importsOf s space v.node <;> rfl

/-- A name makes neither a declaration nor a call. -/
theorem readNode_name {v : Visit} (hname : isClassName v.node = true) :
    readNode s space v =
      (referenceOf s space v.parent v.node).map fun found => { references := found.toList } := by
  have hkind : v.node.kind = "name" ∨ v.node.kind = "qualified_name" := by
    simpa [isClassName] using hname
  have hmade : declarationAt s space v.node = .ok none ∧
      callAt s space v.enclosing v.node = .ok none ∧ methodAt s v.node = none ∧
      (v.node.kind == "namespace_use_declaration") = false := by
    unfold declarationAt callAt methodAt
    rcases hkind with hkind | hkind <;> rw [hkind] <;> exact ⟨rfl, rfl, rfl, rfl⟩
  unfold readNode referencesAt
  rw [hmade.1, hmade.2.1, hmade.2.2.1, hmade.2.2.2, hname]
  cases referenceOf s space v.parent v.node <;> rfl

/-- Elsewhere there are no references. -/
theorem readNode_structure {v : Visit} (himport : v.node.kind ≠ "namespace_use_declaration")
    (hname : isClassName v.node = false) :
    readNode s space v = do
      let declaration ← declarationAt s space v.node
      let call ← callAt s space v.enclosing v.node
      return { declaration, method := methodAt s v.node, call } := by
  have hreferences : referencesAt s space v.parent v.node = .ok [] := by
    unfold referencesAt
    rw [if_neg (by simpa using himport), hname]
    rfl
  unfold readNode
  rw [hreferences]
  cases declarationAt s space v.node <;> rfl

/-- References and a call do not touch the declarations. -/
theorem add_of_none (f : Findings) (enclosing : Option Nat) (references : List Reference)
    (call : Option CallFinding) :
    f.add enclosing { references, call } =
      { f with references := f.references ++ references, calls := f.calls ++ call.toList } := by
  cases enclosing <;> rfl

theorem seeStructure_eq (f : Findings) (v : Visit)
    (himport : v.node.kind ≠ "namespace_use_declaration") (hname : isClassName v.node = false) :
    f.seeStructure s space v = (readNode s space v).map fun g =>
      (f.add v.enclosing g, if declares v.node then some f.declarations.length
        else if v.node.kind == "anonymous_class" then none else v.enclosing) := by
  rw [readNode_structure himport hname]
  unfold Findings.seeStructure declarationAt callAt declares
  cases hkind : declarationKind? v.node.kind with
  | some kind =>
      -- A declaration is no call, no method and no anonymous class.
      obtain ⟨hcall, hmethod, hanonymous, -⟩ := callKind?_of_declarationKind? hkind
      rw [hcall, methodAt_of_ne hmethod]
      unfold Findings.seeDeclaration declarationOf
      cases v.node.child? "name" with
      | none =>
          have hadd := add_of_none f v.enclosing [] none
          simp [hanonymous, hadd, pure, Except.pure, bind, Except.bind, Except.map]
      | some name =>
          cases hspan : name.span with
          | error disorder =>
            simp [hspan, bind, Except.bind, Except.map]
          | ok span =>
            simp [hspan, pure, Except.pure, bind, Except.bind, Except.map, Findings.add]
  | none =>
      simp only [Option.isSome_none, Bool.false_and]
      by_cases hanonymous : v.node.kind = "anonymous_class"
      · have hadd := add_of_none f v.enclosing [] none
        rw [hanonymous, methodAt_of_ne (by rw [hanonymous]; decide)]
        simp [callKind?, hadd, pure, Except.pure, bind, Except.bind, Except.map]
      by_cases hmethod : v.node.kind = "method_declaration"
      · unfold Findings.seeMethod methodAt
        rw [hmethod]
        cases v.enclosing <;> cases methodOf? s v.node <;>
          simp [callKind?, Findings.add, pure, Except.pure, bind, Except.bind, Except.map]
      · rw [methodAt_of_ne hmethod, if_neg (by simpa using hanonymous),
          if_neg (by simpa using hmethod)]
        cases hcall : callKind? v.node.kind with
        | none =>
            have hadd := add_of_none f v.enclosing [] none
            simp [hanonymous, hadd, pure, Except.pure, bind, Except.bind, Except.map]
        | some kind =>
            cases hfound : callOf s space v.enclosing kind v.node with
            | error disorder => simp [hfound, pure, Except.pure, bind, Except.bind, Except.map]
            | ok found =>
                have hadd := add_of_none f v.enclosing [] found
                simp [hfound, hanonymous, hadd, pure, Except.pure, bind, Except.bind, Except.map]

theorem see_eq (f : Findings) (v : Visit) :
    f.see s space v = (readNode s space v).map fun g =>
      (f.add v.enclosing g, nextEnclosing f.declarations.length v) := by
  unfold Findings.see
  by_cases himport : v.node.kind = "namespace_use_declaration"
  · rw [if_pos (by simpa using himport), readNode_import himport]
    have hnext : nextEnclosing f.declarations.length v = none := by
      simp [nextEnclosing, Node.Opens, himport]
    rw [hnext]
    cases importsOf s space v.node with
    | error disorder => rfl
    | ok found =>
        have hadd := add_of_none f v.enclosing found none
        simp [hadd, pure, Except.pure, bind, Except.bind, Except.map]
  · rw [if_neg (by simpa using himport)]
    unfold Findings.seeName
    cases hname : isClassName v.node with
    | true =>
        have hkind : v.node.kind = "name" ∨ v.node.kind = "qualified_name" := by
          simpa [isClassName] using hname
        rw [readNode_name hname]
        cases referenceOf s space v.parent v.node with
        | error disorder => rfl
        | ok found =>
            have hadd := add_of_none f v.enclosing found.toList none
            rcases hkind with hkind | hkind <;>
              simp [hkind, hadd, nextEnclosing, Node.Opens, declares, declarationKind?,
                callKind?, Findings.seeStructure, pure, Except.pure, bind, Except.bind, Except.map]
    | false =>
        -- Neither an import nor a name, so the walk goes on below the node.
        have hopens : v.node.Opens := ⟨himport, by
          rintro hkind
          simp [isClassName, hkind] at hname⟩
        have hseen : f.seeStructure s space v = _ := seeStructure_eq f v himport hname
        have hkind := hopens.2
        unfold nextEnclosing
        simp only [pure, Except.pure, bind, Except.bind, Bool.false_eq_true, if_false]
        rw [hseen]
        cases readNode s space v <;> simp [hkind, hopens, Except.map]

/-- What is found at a node, part by part. -/
theorem readNode_ok {v : Visit} {g : Found} (hg : readNode s space v = .ok g) :
    declarationAt s space v.node = .ok g.declaration ∧
      referencesAt s space v.parent v.node = .ok g.references ∧
      callAt s space v.enclosing v.node = .ok g.call ∧ g.method = methodAt s v.node := by
  unfold readNode at hg
  cases hd : declarationAt s space v.node with
  | error disorder => rw [hd] at hg; cases hg
  | ok d =>
      rw [hd] at hg
      cases hr : referencesAt s space v.parent v.node with
      | error disorder => rw [hr] at hg; cases hg
      | ok r =>
          rw [hr] at hg
          cases hc : callAt s space v.enclosing v.node with
          | error disorder => rw [hc] at hg; cases hg
          | ok c =>
              rw [hc] at hg
              cases hg
              exact ⟨rfl, rfl, rfl, rfl⟩

/-- A node declares something if it is of such a kind and has a name.  A declaration is made without
methods. -/
theorem declarationAt_ok {n : Node} {found : Option Declaration}
    (hfound : declarationAt s space n = .ok found) :
    found.isSome = declares n ∧ ∀ d ∈ found, d.methods = [] := by
  unfold declarationAt declarationOf at hfound
  unfold declares
  cases hkind : declarationKind? n.kind with
  | none =>
      rw [hkind] at hfound
      cases hfound
      exact ⟨rfl, by simp⟩
  | some kind =>
      rw [hkind] at hfound
      cases hname : n.child? "name" with
      | none =>
          rw [hname] at hfound
          cases hfound
          exact ⟨rfl, by simp⟩
      | some name =>
          rw [hname] at hfound
          cases hspan : name.span with
          | error disorder =>
              simp only [hspan] at hfound
              cases hfound
          | ok span =>
              simp only [hspan] at hfound
              cases hfound
              exact ⟨rfl, by simp⟩

/-- What is found at a node is a declaration if the node declares something. -/
theorem isSome_declaration {v : Visit} {g : Found} (hg : readNode s space v = .ok g) :
    g.declaration.isSome = declares v.node :=
  (declarationAt_ok (readNode_ok hg).1).1

theorem length_add (f : Findings) (enclosing : Option Nat) (g : Found) :
    (f.add enclosing g).declarations.length =
      f.declarations.length + if g.declaration.isSome then 1 else 0 := by
  unfold Findings.add
  split <;> simp_all

/-! ## The numbers of the declarations -/

/-- The ways to the nodes that declare something. -/
def declaredWays (all : List Sighting) : List (List Nat) :=
  (all.filter fun v => declares v.node).map Sighting.way

/-- The number of the declaration that the node at the end of a way makes. -/
def placeOf (all : List Sighting) (way : List Nat) : Option Nat :=
  (declaredWays all).idxOf? way

/-- The visit to a node that is seen among others. -/
def visitOf (all : List Sighting) (v : Sighting) : Visit :=
  ⟨v.parent, v.node, v.holder.bind (placeOf all)⟩

theorem declaredWays_append (a b : List Sighting) :
    declaredWays (a ++ b) = declaredWays a ++ declaredWays b := by
  simp [declaredWays]

theorem length_declaredWays_singleton (v : Sighting) :
    (declaredWays [v]).length = if declares v.node then 1 else 0 := by
  unfold declaredWays
  cases hv : declares v.node <;> simp [hv]

theorem placeOf_way {all done later : List Sighting} {v : Sighting}
    (hall : (all.map Sighting.way).Nodup) (hsplit : all = done ++ v :: later)
    (hv : declares v.node = true) : placeOf all v.way = some (declaredWays done).length := by
  have hways : declaredWays all = declaredWays done ++ v.way :: declaredWays later := by
    rw [hsplit, declaredWays_append]
    simp [declaredWays, hv]
  have hfresh : v.way ∉ declaredWays done := by
    intro hmem
    obtain ⟨u, hu, hway⟩ := List.mem_map.1 hmem
    rw [hsplit, List.map_append, List.map_cons, List.nodup_append] at hall
    exact hall.2.2 v.way (List.mem_map.2 ⟨u, List.mem_of_mem_filter hu, hway⟩) v.way
      List.mem_cons_self rfl
  unfold placeOf
  rw [hways, List.idxOf?_eq_some_iff]
  refine ⟨by simp, by simp, fun j hj => ?_⟩
  rw [List.getElem_append_left hj]
  exact fun hsame => hfresh (hsame ▸ List.getElem_mem hj)

/-! ## Scanning as a fold -/

/-- What was found so far, with what is found at a node that is seen among others. -/
def look (s : Source) (all : List Sighting) (f : Findings) (v : Sighting) : Reading Findings :=
  (readNode s v.space (visitOf all v)).map (f.add (v.holder.bind (placeOf all)))

theorem length_look {all : List Sighting} {f f' : Findings} {v : Sighting}
    (hlook : look s all f v = .ok f') :
    f'.declarations.length = f.declarations.length + (declaredWays [v]).length := by
  unfold look at hlook
  cases hg : readNode s v.space (visitOf all v) with
  | error disorder => rw [hg] at hlook; cases hlook
  | ok g =>
      rw [hg] at hlook
      cases hlook
      rw [length_add, isSome_declaration hg, length_declaredWays_singleton]
      rfl

theorem length_foldlM_look {all vs : List Sighting} {f f' : Findings}
    (hfold : vs.foldlM (look s all) f = .ok f') :
    f'.declarations.length = f.declarations.length + (declaredWays vs).length := by
  induction vs generalizing f with
  | nil => cases hfold; rfl
  | cons v vs ih =>
      rw [List.foldlM_cons] at hfold
      cases hlook : look s all f v with
      | error disorder => rw [hlook] at hfold; cases hfold
      | ok next =>
          rw [hlook] at hfold
          have hways : declaredWays (v :: vs) = declaredWays [v] ++ declaredWays vs :=
            declaredWays_append [v] vs
          rw [ih hfold, length_look hlook, hways, List.length_append, Nat.add_assoc]

/-- The declaration in which the children of a node stand. -/
theorem holderAmong_cons (way : List Nat) (n : Node) (around : List (List Nat × Node)) :
    holderAmong ((way, n) :: around) =
      if declares n then some way
      else if n.kind == "anonymous_class" then none else holderAmong around := by
  unfold holderAmong
  rw [List.find?_cons]
  cases hdeclares : declares n <;> cases hanonymous : n.kind == "anonymous_class" <;>
    simp [hdeclares]

/-- The number that is passed on to the children of a node is that of the declaration in which they
are seen. -/
theorem nextEnclosing_eq {all done later : List Sighting} {v : Sighting}
    (hall : (all.map Sighting.way).Nodup) (hsplit : all = done ++ v :: later)
    (hopens : v.node.Opens) :
    nextEnclosing (declaredWays done).length (visitOf all v) =
      some ((holderAmong ((v.way, v.node) :: v.around)).bind (placeOf all)) := by
  have hnode : (visitOf all v).node = v.node := rfl
  unfold nextEnclosing
  rw [hnode, if_pos hopens, holderAmong_cons]
  cases hdeclares : declares v.node with
  | true => simp [placeOf_way hall hsplit hdeclares]
  | false => cases v.node.kind == "anonymous_class" <;> rfl

/-- The nodes below a node are visited as they are seen, with the declarations in which they are
seen. -/
theorem scan_sightings {all : List Sighting} (hall : (all.map Sighting.way).Nodup) (n : Node)
    {parent : Node} {around : List (List Nat × Node)} {way : List Nat}
    {done later : List Sighting}
    (hsplit : all = done ++ (sightings space parent around way n ++ later)) {f : Findings}
    (hf : f.declarations.length = (declaredWays done).length) (rest : List Visit) :
    scan s space f (⟨parent, n, (holderAmong around).bind (placeOf all)⟩ :: rest) =
      (sightings space parent around way n).foldlM (look s all) f >>=
        fun f' => scan s space f' rest := by
  induction n using Node.induction generalizing parent around way done later f rest with
  | hstep n ih =>
      -- The children from one on, as the children before them are.
      have hfrom (nodes : List Node) (hnodes : ∀ c ∈ nodes, c ∈ n.children) (i : Nat)
          {done later : List Sighting} (hsplit : all = done ++
            (sightingsFrom space n ((way, n) :: around) way i nodes ++ later)) {f : Findings}
          (hf : f.declarations.length = (declaredWays done).length) :
          scan s space f ((nodes.map fun c =>
              ⟨n, c, (holderAmong ((way, n) :: around)).bind (placeOf all)⟩) ++ rest) =
            (sightingsFrom space n ((way, n) :: around) way i nodes).foldlM (look s all) f >>=
              fun f' => scan s space f' rest := by
        induction nodes generalizing i done f with
        | nil => rfl
        | cons c nodes ihnodes =>
            obtain ⟨hc, hnodes⟩ := List.forall_mem_cons.1 hnodes
            rw [sightingsFrom, List.append_assoc] at hsplit
            rw [sightingsFrom, List.foldlM_append, bind_assoc, List.map_cons, List.cons_append,
              ih c hc hsplit hf]
            cases hfold : (sightings space n ((way, n) :: around) (way ++ [i]) c).foldlM
                (look s all) f with
            | error disorder => rfl
            | ok next =>
                refine ihnodes hnodes (i + 1) (hsplit.trans (List.append_assoc _ _ _).symm) ?_
                rw [length_foldlM_look hfold, hf, declaredWays_append, List.length_append]
      let v : Sighting := ⟨way, space, parent, n, around⟩
      have hv : (⟨parent, n, (holderAmong around).bind (placeOf all)⟩ : Visit) = visitOf all v :=
        rfl
      rw [sightings_eq, List.cons_append] at hsplit
      have hlook : look s all f v = (readNode s space (visitOf all v)).map
          (f.add (visitOf all v).enclosing) := rfl
      rw [scan, hv, see_eq, sightings_eq, List.foldlM_cons, hlook]
      cases hg : readNode s space (visitOf all v) with
      | error disorder => rfl
      | ok g =>
          have hnext : (f.add (visitOf all v).enclosing g).declarations.length =
              (declaredWays (done ++ [v])).length := by
            rw [hg] at hlook
            rw [length_look hlook, hf, declaredWays_append, List.length_append]
          by_cases hopens : n.Opens
          · rw [if_pos hopens] at hsplit ⊢
            have henclosing : nextEnclosing f.declarations.length (visitOf all v) =
                some ((holderAmong ((way, n) :: around)).bind (placeOf all)) := by
              rw [hf]
              exact nextEnclosing_eq hall hsplit hopens
            simp only [Except.map, henclosing]
            exact hfrom n.children (fun c hc => hc) 0 (hsplit.trans (List.append_cons ..)) hnext
          · have henclosing : nextEnclosing f.declarations.length (visitOf all v) = none :=
              if_neg hopens
            rw [if_neg hopens]
            simp only [Except.map, henclosing]
            rfl

/-! ## The children of the root -/

/-- The namespaces that some nodes tell. -/
def spacesOf (s : Source) (nodes : List Node) : List Name :=
  (nodes.filter isSpace).map (spaceOf s)

theorem spaceBehind_append (s : Source) (before : List Node) (n : Node) :
    spaceBehind s (before ++ [n]) =
      if isSpace n && (n.child? "body").isNone then spaceOf s n else spaceBehind s before := by
  unfold spaceBehind
  rw [List.reverse_append, List.reverse_singleton, List.singleton_append, List.find?_cons]
  cases isSpace n && (n.child? "body").isNone <;> rfl

theorem child?_eq_zipIdx (n : Node) (field : String) :
    n.child? field = (n.children.zipIdx.find? fun c => c.1.field == some field).map Prod.fst := by
  have hmap : n.children = n.children.zipIdx.map Prod.fst := (List.zipIdx_map_fst 0 _).symm
  unfold Node.child?
  nth_rewrite 1 [hmap]
  exact List.find?_map ..

/-- The ways to what is seen of a file are different. -/
theorem nodup_seen (s : Source) (root : Node) : ((seen s root).map Sighting.way).Nodup := by
  refine List.pairwise_map.2 ((pairwise_seen s root).imp ?_)
  exact Precedes.ne

/-- A child of the root is scanned as it is seen. -/
theorem scanRoot_cons {root n : Node} {before rest : List Node}
    (hroot : root.children = before ++ n :: rest) {done later : List Sighting}
    (hsplit : seen s root = done ++ (seenFrom s root before.length n ++ later)) {f : Findings}
    (hf : f.declarations.length = (declaredWays done).length) (spaces : List Name) :
    scanRoot s root (spaceBehind s before) spaces f (n :: rest) =
      (seenFrom s root before.length n).foldlM (look s (seen s root)) f >>= fun f' =>
        scanRoot s root (spaceBehind s (before ++ [n])) (spaces ++ spacesOf s [n]) f' rest := by
  have hseen := nodup_seen s root
  have htake : root.children.take before.length = before := by simp [hroot]
  unfold seenFrom at hsplit ⊢
  rw [htake] at hsplit ⊢
  cases hspace : isSpace n with
  | false =>
      have hspaces : spacesOf s [n] = [] := by simp [spacesOf, hspace]
      have hbehind : spaceBehind s (before ++ [n]) = spaceBehind s before := by
        rw [spaceBehind_append, hspace]
        rfl
      rw [hspace] at hsplit
      have hscan := scan_sightings (s := s) hseen n hsplit hf []
      have hkind : (n.kind == "namespace_definition") = false := hspace
      rw [scanRoot, hkind, hspaces, hbehind, List.append_nil]
      refine (congrArg (· >>= _) hscan).trans ?_
      rw [bind_assoc]
      simp only [scan]
      rfl
  | true =>
      -- Of a namespace only the body is walked through, if it has one.
      have hspaces : spacesOf s [n] = [spaceOf s n] := by simp [spacesOf, hspace]
      have hchild := child?_eq_zipIdx n "body"
      rw [hspace] at hsplit
      have hkind : (n.kind == "namespace_definition") = true := hspace
      rw [scanRoot, hkind, hspaces, spaceBehind_append, hspace]
      cases hbody : n.children.zipIdx.find? fun c => c.1.field == some "body" with
      | none =>
          rw [hbody] at hchild
          rw [hchild]
          rfl
      | some c =>
          obtain ⟨body, j⟩ := c
          rw [hbody] at hsplit hchild
          rw [hchild]
          have hscan := scan_sightings (s := s) hseen body hsplit hf []
          refine (congrArg (· >>= _) hscan).trans ?_
          rw [bind_assoc]
          simp only [scan]
          rfl

theorem spacesOf_append (s : Source) (a b : List Node) :
    spacesOf s (a ++ b) = spacesOf s a ++ spacesOf s b := by
  simp [spacesOf]

theorem scanRoot_from {root : Node} {before nodes : List Node}
    (hroot : root.children = before ++ nodes) {done : List Sighting}
    (hsplit : seen s root = done ++
      (nodes.zipIdx before.length).flatMap fun c => seenFrom s root c.2 c.1) {f : Findings}
    (hf : f.declarations.length = (declaredWays done).length) :
    scanRoot s root (spaceBehind s before) (spacesOf s before) f nodes =
      (((nodes.zipIdx before.length).flatMap fun c => seenFrom s root c.2 c.1).foldlM
        (look s (seen s root)) f).map fun f' => (spacesOf s root.children, f') := by
  induction nodes generalizing before done f with
  | nil =>
      rw [hroot, List.append_nil]
      rfl
  | cons n rest ih =>
      rw [List.zipIdx_cons, List.flatMap_cons] at hsplit ⊢
      rw [scanRoot_cons hroot hsplit hf, List.foldlM_append]
      cases hfold : (seenFrom s root before.length n).foldlM (look s (seen s root)) f with
      | error disorder => rfl
      | ok next =>
          have hlength : before.length + 1 = (before ++ [n]).length := by simp
          rw [hlength, ← List.append_assoc] at hsplit
          rw [hlength, ← spacesOf_append]
          refine ih (by rw [hroot, List.append_cons]) hsplit ?_
          rw [length_foldlM_look hfold, hf, declaredWays_append, List.length_append]

/-- **The nodes of a file are visited as they are seen.** -/
theorem scanRoot_eq (s : Source) (root : Node) :
    scanRoot s root "" [] {} root.children =
      ((seen s root).foldlM (look s (seen s root)) {}).map fun f =>
        (spacesOf s root.children, f) :=
  @scanRoot_from s root [] root.children rfl [] rfl {} rfl

end Rechristen.Sites
