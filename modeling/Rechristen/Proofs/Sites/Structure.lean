import Rechristen.Proofs.Sites.Assembly

/-!
# The sites of a file, by the structure of its tree

A call may be found before the reference that names its class, and that reference is looked up by
where it stands.  Every name of a class that is not a reserved word is a reference, and the text of
a name is told by where it stands.  So the reference that is looked up is the one at the name
itself, up to its namespace where names are in each other's place (`referenceAt?_className`).

With that, the sites of a file are those of the nodes that are seen in it, each read by itself.
-/

namespace Rechristen.Sites

variable {s : Source} {space : Name}

/-! ## Imports -/

/-- What is read, if it can be read, is as told. -/
def Tells {α : Type} (told : α → Prop) (reading : Reading α) : Prop :=
  ∀ value, reading = .ok value → told value

namespace Tells

variable {α β : Type} {told : α → Prop} {told' : β → Prop}

theorem pure {value : α} (hvalue : told value) : Tells told (Pure.pure value : Reading α) := by
  rintro _ ⟨⟩
  exact hvalue

theorem bind {reading : Reading α} {f : α → Reading β} (hreading : Tells told reading)
    (hf : ∀ value, told value → Tells told' (f value)) : Tells told' (reading >>= f) := by
  intro value hvalue
  cases hread : reading with
  | error disorder => rw [hread] at hvalue; cases hvalue
  | ok first =>
      rw [hread] at hvalue
      exact hf first (hreading first hread) value hvalue

theorem of_any {reading : Reading α} : Tells (fun _ => True) reading :=
  fun _ _ => trivial

theorem filterMapM {f : α → Reading (Option β)} {xs : List α}
    (hf : ∀ x ∈ xs, Tells (fun found => ∀ y ∈ found, told' y) (f x)) :
    Tells (fun found => ∀ y ∈ found, told' y) (xs.filterMapM f) := by
  induction xs with
  | nil => exact pure (by simp)
  | cons x rest ih =>
      obtain ⟨hx, hrest⟩ := List.forall_mem_cons.1 hf
      rw [List.filterMapM_cons]
      refine hx.bind fun found hfound => ?_
      cases found with
      | none => exact ih hrest
      | some y =>
          refine (ih hrest).bind fun later hlater => pure ?_
          exact List.forall_mem_cons.2 ⟨hfound y rfl, hlater⟩

end Tells

theorem tells_importOf (group : Option Name) (n : Node) :
    Tells (fun found => ∀ r ∈ found, r.kind = .import_) (importOf s space group n) := by
  unfold importOf
  dsimp only
  split
  · exact Tells.pure (by simp)
  · refine Tells.of_any.bind fun span _ => Tells.of_any.bind fun aliasSpan _ => Tells.pure ?_
    rintro r ⟨⟩
    rfl

theorem tells_clauseImports (group : Option Name) (parts : List Node) :
    Tells (fun found => ∀ r ∈ found, r.kind = .import_) (clauseImports s space group parts) := by
  induction parts generalizing group with
  | nil => exact Tells.pure (by simp)
  | cons n rest ih =>
      rw [clauseImports]
      split
      · exact ih _
      split
      · refine (tells_importOf none n).bind fun found hfound => ?_
        refine (ih group).bind fun later hlater => Tells.pure fun r hr => ?_
        rcases List.mem_append.1 hr with hr | hr
        · exact hfound r (by simpa using hr)
        · exact hlater r hr
      split
      · have hgroup : Tells (fun found => ∀ r ∈ found, r.kind = .import_)
            (groupImports s space group n) := by
          refine Tells.filterMapM fun clause _ => ?_
          split
          · exact tells_importOf group clause
          · exact Tells.pure (by simp)
        refine hgroup.bind fun found hfound => ?_
        refine (ih group).bind fun later hlater => Tells.pure fun r hr => ?_
        exact (List.mem_append.1 hr).elim (hfound r) (hlater r)
      · exact ih group

theorem tells_importsOf (n : Node) :
    Tells (fun found => ∀ r ∈ found, r.kind = .import_) (importsOf s space n) := by
  unfold importsOf
  split
  · exact Tells.pure (by simp)
  · exact tells_clauseImports none n.namedChildren

/-! ## Names of classes -/

/-- The text of a node is a word that stands for a type and not for a class. -/
def isReserved (s : Source) (n : Node) : Bool :=
  reservedNames.contains (Text.lowercase (textOf s n))

theorem hasSpan_of_span {n : Node} {span : ByteSpan} (hspan : n.span = .ok span) :
    n.HasSpan span := by
  unfold Node.span Span.ofBounds at hspan
  split at hspan
  · cases hspan
    exact ⟨rfl, rfl⟩
  · cases hspan

theorem referenceOf_ok {parent n : Node} {found : Option Reference}
    (hfound : referenceOf s space parent n = .ok found) :
    (∀ r ∈ found, isReserved s n = false ∧ n.HasSpan r.span ∧
      r = { name := textOf s n
            kind := if Name.isCompound (textOf s n) then .qualified else .bare
            span := r.span
            space := space }) ∧
      (namesClass parent n = true → isReserved s n = false → found.isSome = true) := by
  unfold referenceOf at hfound
  dsimp only at hfound
  split at hfound
  case isFalse hnot =>
    cases hfound
    refine ⟨by simp, fun hnames hreserved => absurd ?_ hnot⟩
    unfold isReserved at hreserved
    rw [hnames, hreserved]
    rfl
  case isTrue hnamed =>
    obtain ⟨-, hreserved⟩ := Bool.and_eq_true_iff.1 hnamed
    cases hspan : n.span with
    | error disorder => rw [hspan] at hfound; cases hfound
    | ok span =>
        rw [hspan] at hfound
        cases hfound
        refine ⟨?_, fun _ _ => rfl⟩
        rintro r ⟨⟩
        exact ⟨by simpa [isReserved] using hreserved, hasSpan_of_span hspan, rfl⟩

/-- A call is finished when its arguments are read. -/
theorem exists_finish {enclosing : Option Nat} {kind : CallKind} {n : Node} {c : CallFinding}
    (hc : callOf s space enclosing kind n = .ok (some c)) :
    ∃ call, callOf.finish s kind n call = some c := by
  have htells : Tells (fun found => found = some c → ∃ call, callOf.finish s kind n call = some c)
      (callOf s space enclosing kind n) := by
    unfold callOf
    split
    · exact Tells.pure (by simp)
    · refine Tells.of_any.bind fun span _ => Tells.of_any.bind fun arguments _ => Tells.pure ?_
      intro hfinish
      exact ⟨_, hfinish⟩
  exact htells _ hc rfl

theorem kind_of_new {kind : String} (hkind : callKind? kind = some .new_) :
    kind = "object_creation_expression" := by
  unfold callKind? at hkind
  split at hkind
  case h_1 => rfl
  all_goals cases hkind

theorem kind_of_static {kind : String} (hkind : callKind? kind = some .static_) :
    kind = "scoped_call_expression" := by
  unfold callKind? at hkind
  split at hkind
  case h_2 => rfl
  all_goals cases hkind

/-- The node that tells the class of a call. -/
def designator? (n : Node) : Option Node :=
  match callKind? n.kind with
  | some .new_ => n.namedChildren.find? isDesignator
  | some .static_ => (n.child? "scope").filter isDesignator
  | _ => none

/-- A class is told by the place of the call and not by its name. -/
def isRelative (s : Source) (n : Node) : Bool :=
  n.kind == "relative_scope" || Name.relativeScopes.contains (Text.lowercase (textOf s n))

/-- The node that names the class of a call. -/
def className? (s : Source) (n : Node) : Option Node :=
  (designator? n).filter fun m => !isRelative s m

theorem className_bind (call : Call) (n : Node) :
    (CallFinding.bind s call n).className = (some n).filter fun m => !isRelative s m := by
  unfold CallFinding.bind isRelative
  dsimp only
  split
  case isTrue hrelative => simp only [Option.filter_some, hrelative]; rfl
  case isFalse hrelative => simp only [Option.filter_some, Bool.eq_false_iff.2 hrelative]; rfl

theorem className_eq {enclosing : Option Nat} {n : Node} {c : CallFinding}
    (hc : callAt s space enclosing n = .ok (some c)) : c.className = className? s n := by
  unfold callAt at hc
  unfold className? designator?
  cases hkind : callKind? n.kind with
  | none => rw [hkind] at hc; cases hc
  | some kind =>
      rw [hkind] at hc
      obtain ⟨call, hfinish⟩ := exists_finish hc
      unfold callOf.finish at hfinish
      cases kind with
      | method =>
          cases hfinish
          rfl
      | new_ =>
          obtain ⟨d, hd, rfl⟩ := Option.map_eq_some_iff.1 hfinish
          dsimp only
          rw [hd, className_bind]
      | static_ =>
          dsimp only at hfinish ⊢
          split at hfinish
          case h_2 => cases hfinish
          case h_1 scope method hscope hmethod =>
            obtain rfl := Option.some.inj hfinish
            rw [hscope, Option.filter_some]
            cases isDesignator scope with
            | false => rfl
            | true => exact className_bind _ scope

/-- The name that tells the class of a call is a child of the call, and there it is the name of a
class. -/
theorem namesClass_of_className? {n m : Node} (hm : className? s n = some m) :
    n.Opens ∧ m ∈ n.children ∧ isClassName m = true ∧ namesClass n m = true := by
  obtain ⟨hdesignator, hrelative⟩ := Option.filter_eq_some_iff.1 hm
  have hname (htells : isDesignator m = true) : isClassName m = true := by
    have hkind : (m.kind == "relative_scope") = false := by simp_all [isRelative]
    simpa [isDesignator, hkind] using htells
  unfold designator? at hdesignator
  cases hkind : callKind? n.kind with
  | none => rw [hkind] at hdesignator; cases hdesignator
  | some kind =>
      rw [hkind] at hdesignator
      have hopens := Node.opens_of_callKind? (by rw [hkind]; rfl)
      cases kind with
      | method => cases hdesignator
      | new_ =>
          have hchild := Node.mem_of_mem_namedChildren (List.mem_of_find?_eq_some hdesignator)
          refine ⟨hopens, hchild, hname (List.find?_some hdesignator), ?_⟩
          unfold namesClass
          rw [kind_of_new hkind]
          rfl
      | static_ =>
          obtain ⟨hscope, htells⟩ := Option.filter_eq_some_iff.1 hdesignator
          refine ⟨hopens, Node.mem_of_child? hscope, hname htells, ?_⟩
          have hnaming : namingKinds.contains n.kind = false := by
            rw [kind_of_static hkind]
            rfl
          have hscoped : scopedKinds.contains n.kind = true := by
            rw [kind_of_static hkind]
            rfl
          unfold namesClass
          rw [hnaming, hscoped, hscope]
          simp [sameAs, Node.same]

/-! ## Looking up the name of a class -/

/-- The last reference that stands where a node does is found. -/
theorem referenceAt?_eq_some {references : List Reference} {n : Node} {i : Nat}
    (hi : referenceAt? references n = some i) :
    (∃ r, references[i]? = some r ∧ r.kind ≠ .import_ ∧ n.HasSpan r.span) ∧
      ∀ j r, references[j]? = some r → r.kind ≠ .import_ → n.HasSpan r.span → j ≤ i := by
  obtain ⟨⟨r, i'⟩, hfind, rfl⟩ := Option.map_eq_some_iff.1 hi
  obtain ⟨hr, later, earlier, hsplit, hlater⟩ := List.find?_eq_some_iff_append.1 hfind
  have hmem : (r, i') ∈ references.zipIdx := List.mem_reverse.1 (hsplit ▸ by simp)
  constructor
  · refine ⟨r, List.mem_zipIdx_iff_getElem?.1 hmem, ?_⟩
    simpa [Node.HasSpan, and_assoc] using hr
  · intro j q hq himport hspan
    -- The places fall from one reference to the next when they are gone through from the end.
    have hfalling : references.zipIdx.reverse.Pairwise fun a b => b.2 < a.2 := by
      have hrange : (references.zipIdx.map Prod.snd).Pairwise (· < ·) := by
        rw [List.zipIdx_map_snd]
        exact List.pairwise_lt_range'
      exact List.pairwise_reverse.2 (List.pairwise_map.1 hrange)
    rw [hsplit, List.pairwise_append, List.pairwise_cons] at hfalling
    have hj : (q, j) ∈ later ++ (r, i') :: earlier := by
      rw [← hsplit, List.mem_reverse]
      exact List.mem_zipIdx_iff_getElem?.2 hq
    rcases List.mem_append.1 hj with hj | hj
    · have hnot := hlater (q, j) hj
      simp [himport, hspan.1, hspan.2] at hnot
    · rcases List.mem_cons.1 hj with heq | hj
      · exact Nat.le_of_eq (congrArg Prod.snd heq)
      · exact Nat.le_of_lt (hfalling.2.1.1 (q, j) hj)

theorem referenceAt?_eq_none {references : List Reference} {n : Node}
    (hnone : referenceAt? references n = none) :
    ∀ r ∈ references, r.kind ≠ .import_ → ¬n.HasSpan r.span := by
  intro r hr himport hspan
  obtain ⟨i, hi⟩ := List.mem_iff_getElem?.1 hr
  have hmem : (r, i) ∈ references.zipIdx.reverse :=
    List.mem_reverse.2 (List.mem_zipIdx_iff_getElem?.2 hi)
  have hnot := List.find?_eq_none.1 (Option.map_eq_none_iff.1 hnone) (r, i) hmem
  simp [himport, hspan.1, hspan.2] at hnot

/-! ## The references of a file -/

theorem referencesAt_name {parent n : Node} (hname : isClassName n = true)
    {references : List Reference} (hreferences : referencesAt s space parent n = .ok references) :
    ∃ found, referenceOf s space parent n = .ok found ∧ references = found.toList := by
  have himport : (n.kind == "namespace_use_declaration") = false := by
    have hkind : n.kind = "name" ∨ n.kind = "qualified_name" := by simpa [isClassName] using hname
    rcases hkind with hkind | hkind <;> rw [hkind] <;> rfl
  unfold referencesAt at hreferences
  rw [himport, hname] at hreferences
  cases hread : referenceOf s space parent n with
  | error disorder => rw [hread] at hreferences; cases hreferences
  | ok found =>
      rw [hread] at hreferences
      exact ⟨found, rfl, (Except.ok.inj hreferences).symm⟩

/-- A reference other than an import stands at a name. -/
theorem exists_of_mem_references {root : Node} {found : List (Sighting × Found)}
    (hfound : outline s root = .ok found) {r : Reference} (hr : r ∈ (assemble found).references)
    (himport : r.kind ≠ .import_) :
    ∃ p ∈ found, referenceOf s p.1.space p.1.parent p.1.node = .ok (some r) := by
  obtain ⟨p, hp, hr⟩ := List.mem_flatMap.1 hr
  obtain ⟨-, hreferences, -, -⟩ := readNode_ok ((readAll_ok hfound).2 p hp)
  have hreferences : referencesAt s p.1.space p.1.parent p.1.node = .ok p.2.references :=
    hreferences
  refine ⟨p, hp, ?_⟩
  cases hname : isClassName p.1.node with
  | true =>
      obtain ⟨own, hown, hlist⟩ := referencesAt_name hname hreferences
      rw [hlist, Option.mem_toList] at hr
      rw [hown, hr]
  | false =>
      unfold referencesAt at hreferences
      rw [hname] at hreferences
      split at hreferences
      · exact absurd (tells_importsOf p.1.node _ hreferences r hr) himport
      · have hlist : [] = p.2.references := Except.ok.inj hreferences
        rw [← hlist] at hr
        cases hr

/-- Nodes in one place have one text. -/
theorem textOf_eq {n m : Node} {span : ByteSpan} (hn : n.HasSpan span) (hm : m.HasSpan span) :
    textOf s n = textOf s m := by
  unfold textOf
  rw [← hn.1, ← hn.2, hm.1, hm.2]

/-- A place in the references names the class of a call: there stands the last reference in the
place of the name, and up to its namespace it is what is found at the name. -/
structure Names (found : List (Sighting × Found)) (v : Sighting) (n : Node) (i : Nat) : Prop where
  stands : ∃ p ∈ found, p.1.node = n ∧ p.1.parent = v.node ∧ ∃ own r : Reference,
    p.2.references = [own] ∧ (assemble found).references[i]? = some r ∧
      r = { own with space := r.space }
  last : ∀ j r, (assemble found).references[j]? = some r → r.kind ≠ .import_ →
    n.HasSpan r.span → j ≤ i

theorem hasSpan_unique {n : Node} {a b : ByteSpan} (ha : n.HasSpan a) (hb : n.HasSpan b) :
    a = b := by
  cases a
  cases b
  cases ha.1.trans hb.1.symm
  cases ha.2.trans hb.2.symm
  rfl

/-- The name that tells the class of a call is found as a reference, unless it is reserved. -/
theorem exists_reference {root : Node} {found : List (Sighting × Found)}
    (hfound : outline s root = .ok found) {p : Sighting × Found} (hp : p ∈ found)
    {n : Node} (hn : className? s p.1.node = some n) (hreserved : isReserved s n = false) :
    ∃ q ∈ found, q.1.node = n ∧ q.1.parent = p.1.node ∧ ∃ own,
      q.2.references = [own] ∧ referenceOf s q.1.space q.1.parent n = .ok (some own) := by
  obtain ⟨hseen, hread⟩ := readAll_ok hfound
  obtain ⟨hopens, hchild, hname, hnames⟩ := namesClass_of_className? hn
  have hmem : p.1 ∈ seen s root := hseen ▸ List.mem_map_of_mem hp
  obtain ⟨u, hu, hnode, hparent⟩ := child_seen hmem hopens hchild
  rw [← hseen] at hu
  obtain ⟨q, hq, rfl⟩ := List.mem_map.1 hu
  refine ⟨q, hq, hnode, hparent, ?_⟩
  obtain ⟨-, hreferences, -, -⟩ := readNode_ok (hread q hq)
  have hreferences : referencesAt s q.1.space q.1.parent n = .ok q.2.references := by
    rw [← hnode]
    exact hreferences
  obtain ⟨own, hown, hlist⟩ := referencesAt_name hname hreferences
  have hsome := (referenceOf_ok hown).2 (hparent ▸ hnames) hreserved
  obtain ⟨r, rfl⟩ := Option.isSome_iff_exists.1 hsome
  exact ⟨r, hlist, hown⟩

/-- **The class of a call is looked up where it is named.** -/
theorem referenceAt?_className {root : Node} {found : List (Sighting × Found)}
    (hfound : outline s root = .ok found) {p : Sighting × Found} (hp : p ∈ found)
    {n : Node} (hn : className? s p.1.node = some n) :
    if isReserved s n then referenceAt? (assemble found).references n = none
    else ∃ i, referenceAt? (assemble found).references n = some i ∧ Names found p.1 n i := by
  -- Whatever stands in the place of the name has its text.
  have htext {r : Reference} (hr : r ∈ (assemble found).references) (himport : r.kind ≠ .import_)
      (hspan : n.HasSpan r.span) : isReserved s n = false ∧
        r = { name := textOf s n
              kind := if Name.isCompound (textOf s n) then .qualified else .bare
              span := r.span
              space := r.space } := by
    obtain ⟨q, -, hread⟩ := exists_of_mem_references hfound hr himport
    obtain ⟨hreserved, hother, hr⟩ := (referenceOf_ok hread).1 r rfl
    have hsame := textOf_eq (s := s) hother hspan
    unfold isReserved at hreserved ⊢
    rw [hsame] at hreserved hr
    refine ⟨hreserved, hr.trans ?_⟩
    rw [hr]
  cases hlook : referenceAt? (assemble found).references n with
  | none =>
      split
      case isTrue => rfl
      case isFalse hreserved =>
        obtain ⟨q, hq, hnode, -, own, hlist, hown⟩ :=
          exists_reference hfound hp hn (Bool.eq_false_iff.2 hreserved)
        obtain ⟨-, hspan, hr⟩ := (referenceOf_ok hown).1 own rfl
        have hmem : own ∈ (assemble found).references :=
          List.mem_flatMap.2 ⟨q, hq, by simp [hlist]⟩
        refine absurd hspan (referenceAt?_eq_none hlook own hmem ?_)
        rw [hr]
        dsimp only
        split <;> simp
  | some i =>
      obtain ⟨⟨r, hr, himport, hspan⟩, hlast⟩ := referenceAt?_eq_some hlook
      obtain ⟨hreserved, hsame⟩ := htext (List.mem_of_getElem? hr) himport hspan
      obtain ⟨q, hq, hnode, hparent, own, hlist, hown⟩ := exists_reference hfound hp hn hreserved
      obtain ⟨-, hownSpan, hown⟩ := (referenceOf_ok hown).1 own rfl
      rw [hreserved]
      refine ⟨i, rfl, ⟨q, hq, hnode, hparent, own, r, hlist, hr, ?_⟩, hlast⟩
      rw [hown, hasSpan_unique hownSpan hspan]
      exact hsame

/-! ## The sites of a file -/

/-- The sites of a file, from what is found at its nodes. -/
def sitesOf (s : Source) (root : Node) (found : List (Sighting × Found)) : Sites where
  space := (spacesOf s root.children).headD ""
  declarations := (assemble found).declarations.map (withParent (assemble found).references)
  references := (assemble found).references
  calls := (assemble found).calls.map (CallFinding.resolve (assemble found).references)

/-- The class of a call is told by the reference at its name. -/
def TellsClass (s : Source) (found : List (Sighting × Found)) (v : Sighting)
    (classReference : Option Nat) : Prop :=
  match className? s v.node with
  | none => classReference = none
  | some n =>
    if isReserved s n then classReference = none
    else ∃ i, classReference = some i ∧ Names found v n i

/-- **The sites of a file are those of the nodes that are seen in it**, each node once and in the
order of the file.  The declaration in which a node stands is made by one of them, and the place of
a declaration is that of its node among those that declare something. -/
theorem extract_eq_outline (s : Source) (root : Node) :
    extract s root = (outline s root).map (sitesOf s root) ∧
      (seen s root).Pairwise (fun a b => Precedes a.way b.way) ∧
      (∀ v ∈ seen s root, v.Stands root ∧ ∀ way, v.holder = some way →
        ∃ u ∈ seen s root, u.way = way ∧ declares u.node = true) ∧
      ∀ found, outline s root = .ok found →
        (declared found).map Prod.fst = declaredWays (seen s root) ∧
          ∀ p ∈ found, ∀ c, p.2.call = some c →
            TellsClass s found p.1 (c.resolve (assemble found).references).classReference := by
  refine ⟨?_, pairwise_seen s root, ?_, ?_⟩
  · unfold extract
    rw [scanRoot_eq_assemble]
    cases outline s root <;> rfl
  · intro v hv
    exact ⟨stands_of_mem_seen hv, fun way hway => exists_holder hv hway⟩
  · intro found hfound
    obtain ⟨hseen, hread⟩ := readAll_ok hfound
    refine ⟨?_, fun p hp c hc => ?_⟩
    · rw [map_declared (orderly_of_outline hfound).declares, hseen]
    · obtain ⟨-, -, hcall, -⟩ := readNode_ok (hread p hp)
      rw [hc] at hcall
      have hname : c.className = className? s p.1.node := className_eq hcall
      unfold TellsClass CallFinding.resolve
      rw [hname]
      cases hn : className? s p.1.node with
      | none => rfl
      | some n => exact referenceAt?_className hfound hp hn

end Rechristen.Sites
