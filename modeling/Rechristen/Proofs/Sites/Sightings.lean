import Mathlib.Data.List.Lex
import Mathlib.Data.List.Nodup
import Rechristen.Proofs.SyntaxTree.Places

/-!
# Which nodes are seen, and where

The nodes of a tree that matter for the sites of a file, by recursion on the tree: a node, and then
all that is seen below it, child by child.  Nothing is seen below an import or a qualified name.  Of
a namespace at the top only the body is seen.  Each node is told with the way to it, its namespace
and what it stands in.

The ways are those of a walk through the tree in the order of the file: each way comes before the
next one, child by child (`pairwise_seen`).  So every node is seen once, and what a node stands in
is seen before it.
-/

namespace Rechristen

/-! ## Induction on trees -/

namespace Node

theorem size_le_sizeAll {n : Node} {nodes : List Node} (hn : n ∈ nodes) :
    n.size ≤ sizeAll nodes := by
  induction nodes with
  | nil => cases hn
  | cons first rest ih =>
      rw [sizeAll]
      rcases List.mem_cons.1 hn with rfl | hrest
      · omega
      · have := ih hrest
        omega

/-- What passes from the children of a node to the node holds of all nodes. -/
theorem induction {motive : Node → Prop}
    (hstep : ∀ n : Node, (∀ c ∈ n.children, motive c) → motive n) (n : Node) : motive n := by
  refine hstep n fun c hc => induction hstep c
termination_by n.size
decreasing_by
  have hle := size_le_sizeAll hc
  rw [size_eq n]
  omega

/-- The node to which a way leads: which child to take, level by level. -/
def at? : Node → List Nat → Option Node
  | n, [] => some n
  | n, i :: rest => n.children[i]?.bind (·.at? rest)

theorem at?_append (n : Node) (way rest : List Nat) :
    n.at? (way ++ rest) = (n.at? way).bind (·.at? rest) := by
  induction way generalizing n with
  | nil => rfl
  | cons i way ih =>
      rw [List.cons_append, at?, at?, Option.bind_assoc]
      exact congrArg _ (funext fun c => ih c)

instance (n : Node) : Decidable n.Opens :=
  inferInstanceAs (Decidable (_ ∧ _))

end Node

namespace Sites

/-! ## Below a node -/

/-- A node that is seen. -/
structure Sighting where
  /-- Which child to take, level by level, from the root. -/
  way : List Nat
  /-- The namespace that holds for it. -/
  space : Name
  parent : Node
  node : Node
  /-- The seen nodes in which it stands with the ways to them, from the inside out. -/
  around : List (List Nat × Node)

mutual

/-- A node and all that is seen below it. -/
def sightings (space : Name) (parent : Node) (around : List (List Nat × Node)) (way : List Nat) :
    Node → List Sighting
  | .mk kind isNamed isMissing start stop field children =>
    let n := Node.mk kind isNamed isMissing start stop field children
    ⟨way, space, parent, n, around⟩ ::
      if n.Opens then sightingsFrom space n ((way, n) :: around) way 0 children else []

/-- The children of a node from one on, and all that is seen below them. -/
def sightingsFrom (space : Name) (parent : Node) (around : List (List Nat × Node))
    (way : List Nat) : Nat → List Node → List Sighting
  | _, [] => []
  | i, n :: rest =>
    sightings space parent around (way ++ [i]) n ++
      sightingsFrom space parent around way (i + 1) rest

end

theorem sightings_eq (space : Name) (parent : Node) (around : List (List Nat × Node))
    (way : List Nat) (n : Node) :
    sightings space parent around way n =
      ⟨way, space, parent, n, around⟩ ::
        if n.Opens then sightingsFrom space n ((way, n) :: around) way 0 n.children else [] := by
  cases n
  rw [sightings]
  rfl

/-- A node that is seen among some children is seen below one of them. -/
theorem mem_sightingsFrom {space : Name} {parent : Node} {around : List (List Nat × Node)}
    {way : List Nat} {i : Nat} {nodes : List Node} {v : Sighting} :
    v ∈ sightingsFrom space parent around way i nodes ↔
      ∃ j c, nodes[j]? = some c ∧ v ∈ sightings space parent around (way ++ [i + j]) c := by
  induction nodes generalizing i with
  | nil => simp [sightingsFrom]
  | cons n rest ih =>
      rw [sightingsFrom, List.mem_append, ih]
      constructor
      · rintro (hv | ⟨j, c, hc, hv⟩)
        · exact ⟨0, n, rfl, hv⟩
        · exact ⟨j + 1, c, hc, by rwa [Nat.add_right_comm] at hv⟩
      · rintro ⟨j, c, hc, hv⟩
        cases j with
        | zero =>
            obtain rfl := Option.some.inj hc
            exact Or.inl hv
        | succ j => exact Or.inr ⟨j, c, hc, by rwa [Nat.add_right_comm]⟩

/-- What is seen from a node is the node itself, or is seen from one of its children. -/
theorem mem_sightings {space : Name} {parent n : Node} {around : List (List Nat × Node)}
    {way : List Nat} {v : Sighting} :
    v ∈ sightings space parent around way n ↔
      v = ⟨way, space, parent, n, around⟩ ∨
        n.Opens ∧ ∃ i c, n.children[i]? = some c ∧
          v ∈ sightings space n ((way, n) :: around) (way ++ [i]) c := by
  rw [sightings_eq, List.mem_cons]
  split
  case isTrue hopens => simp [mem_sightingsFrom, hopens]
  case isFalse hopens => simp [hopens]

/-- The ways of what is seen from a node go on from the way to it. -/
theorem way_of_mem {space : Name} {parent n : Node} {around : List (List Nat × Node)}
    {way : List Nat} {v : Sighting} (hv : v ∈ sightings space parent around way n) :
    way <+: v.way := by
  induction n using Node.induction generalizing parent around way with
  | hstep n ih =>
      rcases mem_sightings.1 hv with rfl | ⟨-, i, c, hc, hv⟩
      · exact List.prefix_refl way
      · exact (List.prefix_append way [i]).trans (ih c (List.mem_of_getElem? hc) hv)

/-- The children of a node that is seen are seen too, unless nothing is seen below it. -/
theorem child_of_mem {space : Name} {parent n : Node} {around : List (List Nat × Node)}
    {way : List Nat} {v : Sighting} (hv : v ∈ sightings space parent around way n)
    (hopens : v.node.Opens) {c : Node} (hc : c ∈ v.node.children) :
    ∃ u ∈ sightings space parent around way n,
      u.node = c ∧ u.parent = v.node := by
  induction n using Node.induction generalizing parent around way with
  | hstep n ih =>
      rcases mem_sightings.1 hv with rfl | ⟨hn, i, d, hd, hv⟩
      · obtain ⟨i, hi⟩ := List.mem_iff_getElem?.1 hc
        let u : Sighting := ⟨way ++ [i], space, n, c, (way, n) :: around⟩
        have hu : u ∈ sightings space n ((way, n) :: around) (way ++ [i]) c :=
          mem_sightings.2 (Or.inl rfl)
        exact ⟨u, mem_sightings.2 (Or.inr ⟨hopens, i, c, hi, hu⟩), rfl, rfl⟩
      · obtain ⟨u, hu, htold⟩ := ih d (List.mem_of_getElem? hd) hv
        exact ⟨u, mem_sightings.2 (Or.inr ⟨hn, i, d, hd, hu⟩), htold⟩

/-- What a node stands in is seen too. -/
theorem around_of_mem {space : Name} {parent n : Node} {around : List (List Nat × Node)}
    {way : List Nat} {v : Sighting} (hv : v ∈ sightings space parent around way n)
    {a : List Nat × Node} (ha : a ∈ v.around) :
    a ∈ around ∨ ∃ u ∈ sightings space parent around way n, u.way = a.1 ∧ u.node = a.2 := by
  induction n using Node.induction generalizing parent around way with
  | hstep n ih =>
      rcases mem_sightings.1 hv with rfl | ⟨hn, i, d, hd, hv⟩
      · exact Or.inl ha
      · rcases ih d (List.mem_of_getElem? hd) hv with hmem | ⟨u, hu, htold⟩
        · rcases List.mem_cons.1 hmem with rfl | hmem
          · exact Or.inr ⟨_, mem_sightings.2 (Or.inl rfl), rfl, rfl⟩
          · exact Or.inl hmem
        · exact Or.inr ⟨u, mem_sightings.2 (Or.inr ⟨hn, i, d, hd, hu⟩), htold⟩

/-! ## The order of the file -/

/-- One way comes before another in the order of the file. -/
def Precedes (a b : List Nat) : Prop :=
  List.Lex (· < ·) a b

theorem Precedes.asymm {a b : List Nat} (hab : Precedes a b) : ¬Precedes b a := by
  have hlex : Std.Asymm (List.Lex fun i j : Nat => i < j) := inferInstance
  exact hlex.asymm a b hab

theorem Precedes.ne {a b : List Nat} (hab : Precedes a b) : a ≠ b := by
  rintro rfl
  exact hab.asymm hab

theorem precedes_longer (a : List Nat) (i : Nat) (b : List Nat) : Precedes a (a ++ i :: b) := by
  have hnil : List.Lex (· < ·) [] (i :: b) := .nil
  simpa [Precedes] using hnil.append_left _ a

/-- Ways that part at some level are in the order in which they part. -/
theorem precedes_of_lt {way a b : List Nat} {i j : Nat} (hij : i < j) (ha : way ++ [i] <+: a)
    (hb : way ++ [j] <+: b) : Precedes a b := by
  obtain ⟨a, rfl⟩ := ha
  obtain ⟨b, rfl⟩ := hb
  have hrel : List.Lex (· < ·) (i :: a) (j :: b) := .rel hij
  simpa [Precedes] using hrel.append_left _ way

theorem pairwise_sightings (space : Name) (parent : Node) (around : List (List Nat × Node))
    (way : List Nat) (n : Node) :
    (sightings space parent around way n).Pairwise fun a b => Precedes a.way b.way := by
  induction n using Node.induction generalizing parent around way with
  | hstep n ih =>
      have hfrom (nodes : List Node) (hnodes : ∀ c ∈ nodes, c ∈ n.children) (i : Nat) :
          (sightingsFrom space n ((way, n) :: around) way i nodes).Pairwise
            fun a b => Precedes a.way b.way := by
        induction nodes generalizing i with
        | nil => exact List.Pairwise.nil
        | cons c rest ihrest =>
            obtain ⟨hc, hrest⟩ := List.forall_mem_cons.1 hnodes
            rw [sightingsFrom, List.pairwise_append]
            refine ⟨ih c hc _ _ _, ihrest hrest (i + 1), fun a ha b hb => ?_⟩
            obtain ⟨j, d, -, hb⟩ := mem_sightingsFrom.1 hb
            exact precedes_of_lt (by omega) (way_of_mem ha) (way_of_mem hb)
      rw [sightings_eq, List.pairwise_cons]
      constructor
      · intro v hv
        split at hv
        case isFalse => cases hv
        case isTrue =>
          obtain ⟨j, c, -, hv⟩ := mem_sightingsFrom.1 hv
          obtain ⟨rest, hrest⟩ := way_of_mem hv
          rw [← hrest, List.append_assoc]
          exact precedes_longer way (0 + j) rest
      · split
        · exact hfrom n.children (fun c hc => hc) 0
        · exact List.Pairwise.nil

/-! ## What a node stands in -/

/-- What is seen stands where its way leads, and what it stands in is on that way. -/
structure Sighting.Stands (root : Node) (v : Sighting) : Prop where
  node : root.at? v.way = some v.node
  around : ∀ a ∈ v.around, Precedes a.1 v.way ∧ root.at? a.1 = some a.2

theorem stands_of_mem {root : Node} {space : Name} {parent n : Node}
    {around : List (List Nat × Node)} {way : List Nat} (hn : root.at? way = some n)
    (haround : ∀ a ∈ around, (∃ i rest, way = a.1 ++ i :: rest) ∧ root.at? a.1 = some a.2)
    {v : Sighting} (hv : v ∈ sightings space parent around way n) : v.Stands root := by
  induction n using Node.induction generalizing parent around way with
  | hstep n ih =>
      rcases mem_sightings.1 hv with rfl | ⟨-, i, c, hc, hv⟩
      · refine ⟨hn, fun a ha => ?_⟩
        obtain ⟨⟨i, rest, hway⟩, hat⟩ := haround a ha
        exact ⟨hway ▸ precedes_longer a.1 i rest, hat⟩
      · refine ih c (List.mem_of_getElem? hc) ?_ ?_ hv
        · rw [Node.at?_append, hn]
          simp [Node.at?, hc]
        · intro a ha
          rcases List.mem_cons.1 ha with rfl | ha
          · exact ⟨⟨i, [], rfl⟩, hn⟩
          · obtain ⟨⟨j, rest, rfl⟩, hat⟩ := haround a ha
            exact ⟨⟨j, rest ++ [i], by simp⟩, hat⟩

/-- The node declares something that has a name. -/
def declares (n : Node) : Bool :=
  (declarationKind? n.kind).isSome && (n.child? "name").isSome

/-- The way to the declaration in which something stands, from the inside out.  An anonymous class
hides those around it. -/
def holderAmong (around : List (List Nat × Node)) : Option (List Nat) :=
  (around.find? fun a => declares a.2 || a.2.kind == "anonymous_class").bind fun a =>
    if declares a.2 then some a.1 else none

/-- The way to the declaration in which a node stands. -/
def Sighting.holder (v : Sighting) : Option (List Nat) :=
  holderAmong v.around

/-- What a node stands in is seen before it. -/
theorem Sighting.Stands.precedes_holder {root : Node} {v : Sighting} (hv : v.Stands root)
    {way : List Nat} (hway : v.holder = some way) : Precedes way v.way := by
  unfold holder holderAmong at hway
  obtain ⟨a, ha, hway⟩ := Option.bind_eq_some_iff.1 hway
  split at hway
  case isFalse => cases hway
  case isTrue =>
    obtain rfl := Option.some.inj hway
    exact (hv.around a (List.mem_of_find?_eq_some ha)).1

/-! ## Below the root -/

/-- The node says which namespace holds. -/
def isSpace (n : Node) : Bool :=
  n.kind == "namespace_definition"

/-- The namespace a node tells. -/
def spaceOf (s : Source) (n : Node) : Name :=
  ((n.child? "name").map (textOf s)).getD ""

/-- The namespace that holds behind some children of the root: that of the last one without a
body. -/
def spaceBehind (s : Source) (before : List Node) : Name :=
  ((before.reverse.find? fun n => isSpace n && (n.child? "body").isNone).map (spaceOf s)).getD ""

/-- What is seen from a child of the root: the body of a namespace in that namespace, and anything
else in the namespace that holds there. -/
def seenFrom (s : Source) (root : Node) (i : Nat) (n : Node) : List Sighting :=
  if isSpace n then
    match n.children.zipIdx.find? fun c => c.1.field == some "body" with
    | some (body, j) => sightings (spaceOf s n) n [] [i, j] body
    | none => []
  else sightings (spaceBehind s (root.children.take i)) root [] [i] n

/-- All that is seen of a file. -/
def seen (s : Source) (root : Node) : List Sighting :=
  root.children.zipIdx.flatMap fun c => seenFrom s root c.2 c.1

theorem mem_seenFrom {s : Source} {root n : Node} {i : Nat} {v : Sighting}
    (hv : v ∈ seenFrom s root i n) :
    (∃ j body, n.children[j]? = some body ∧ v ∈ sightings (spaceOf s n) n [] [i, j] body) ∨
      v ∈ sightings (spaceBehind s (root.children.take i)) root [] [i] n := by
  unfold seenFrom at hv
  split at hv
  case isFalse => exact Or.inr hv
  case isTrue =>
    split at hv
    case h_2 => cases hv
    case h_1 body j hbody =>
      exact Or.inl ⟨j, body, List.mem_zipIdx_iff_getElem?.1 (List.mem_of_find?_eq_some hbody), hv⟩

theorem way_of_mem_seenFrom {s : Source} {root n : Node} {i : Nat} {v : Sighting}
    (hv : v ∈ seenFrom s root i n) : [i] <+: v.way := by
  rcases mem_seenFrom hv with ⟨j, body, -, hv⟩ | hv
  · exact (List.prefix_append [i] [j]).trans (way_of_mem hv)
  · exact way_of_mem hv

/-- **Every node is seen once, in the order of the file.** -/
theorem pairwise_seen (s : Source) (root : Node) :
    (seen s root).Pairwise fun a b => Precedes a.way b.way := by
  unfold seen
  rw [List.pairwise_flatMap]
  constructor
  · intro c _
    unfold seenFrom
    split
    · split
      · exact pairwise_sightings _ _ _ _ _
      · exact List.Pairwise.nil
    · exact pairwise_sightings _ _ _ _ _
  · have hplaces : root.children.zipIdx.Pairwise fun a b => a.2 < b.2 := by
      have hrange : (root.children.zipIdx.map Prod.snd).Pairwise (· < ·) := by
        rw [List.zipIdx_map_snd]
        exact List.pairwise_lt_range'
      exact List.pairwise_map.1 hrange
    refine hplaces.imp fun hlt a ha b hb => ?_
    have hprecedes := @precedes_of_lt [] a.way b.way _ _ hlt
    exact hprecedes (way_of_mem_seenFrom ha) (way_of_mem_seenFrom hb)

theorem stands_of_mem_seen {s : Source} {root : Node} {v : Sighting} (hv : v ∈ seen s root) :
    v.Stands root := by
  obtain ⟨⟨n, i⟩, hn, hv⟩ := List.mem_flatMap.1 hv
  have hn : root.children[i]? = some n := List.mem_zipIdx_iff_getElem?.1 hn
  rcases mem_seenFrom hv with ⟨j, body, hbody, hv⟩ | hv
  · exact stands_of_mem (by simp [Node.at?, hn, hbody]) (by simp) hv
  · exact stands_of_mem (by simp [Node.at?, hn]) (by simp) hv

/-- What is seen is seen from some node at the top. -/
theorem exists_of_mem_seen {s : Source} {root : Node} {v : Sighting} (hv : v ∈ seen s root) :
    ∃ space parent way n, v ∈ sightings space parent [] way n ∧
      ∀ u ∈ sightings space parent [] way n, u ∈ seen s root := by
  obtain ⟨⟨n, i⟩, hn, hv⟩ := List.mem_flatMap.1 hv
  have hseen (u : Sighting) (hu : u ∈ seenFrom s root i n) : u ∈ seen s root :=
    List.mem_flatMap.2 ⟨(n, i), hn, hu⟩
  dsimp only at hv
  unfold seenFrom at hv hseen
  split at hv
  case isFalse hspace =>
    rw [if_neg hspace] at hseen
    exact ⟨_, _, _, _, hv, hseen⟩
  case isTrue hspace =>
    rw [if_pos hspace] at hseen
    split at hv
    case h_2 => cases hv
    case h_1 body j hbody =>
      rw [hbody] at hseen
      exact ⟨_, _, _, _, hv, hseen⟩

theorem child_seen {s : Source} {root : Node} {v : Sighting} (hv : v ∈ seen s root)
    (hopens : v.node.Opens) {c : Node} (hc : c ∈ v.node.children) :
    ∃ u ∈ seen s root, u.node = c ∧ u.parent = v.node := by
  obtain ⟨space, parent, way, n, hv, hseen⟩ := exists_of_mem_seen hv
  obtain ⟨u, hu, hnode, hparent⟩ := child_of_mem hv hopens hc
  exact ⟨u, hseen u hu, hnode, hparent⟩

/-- The declaration in which a node stands is made by a node that is seen. -/
theorem exists_holder {s : Source} {root : Node} {v : Sighting} (hv : v ∈ seen s root)
    {way : List Nat} (hway : v.holder = some way) :
    ∃ u ∈ seen s root, u.way = way ∧ declares u.node = true := by
  obtain ⟨space, parent, top, n, hv, hseen⟩ := exists_of_mem_seen hv
  unfold Sighting.holder holderAmong at hway
  obtain ⟨a, ha, hway⟩ := Option.bind_eq_some_iff.1 hway
  split at hway
  case isFalse => cases hway
  case isTrue hdeclares =>
    obtain rfl := Option.some.inj hway
    rcases around_of_mem hv (List.mem_of_find?_eq_some ha) with hmem | ⟨u, hu, hsame, hnode⟩
    · cases hmem
    · exact ⟨u, hseen u hu, hsame, hnode ▸ hdeclares⟩

end Sites

end Rechristen
