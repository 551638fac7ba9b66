import Rechristen.Proofs.Edits.Conflicts
import Rechristen.Proofs.SyntaxTree.Places

/-!
# The sites of a well-formed tree

From a well-formed tree the sites of a file can always be read.  Every declaration has its name, and
every reference stands, at the place of a name; every call has its list at the place of a list, with
arguments that start at the places of arguments.  These places are compatible (`compatible`), so
whatever is edited later, edits do not overlap.
-/

namespace Rechristen

/-! ## Nodes and spans -/

/-- The span is that of the node. -/
def Node.HasSpan (n : Node) (span : ByteSpan) : Prop :=
  span.start = n.start ∧ span.stop = n.stop

namespace Sites

open Edits (contains_iff overlaps_eq_false_iff)

/-- Places of single edits: names, and where arguments start. -/
inductive Spot (nodes : List Node) : ByteSpan → Prop
  | name {a : Node} {span : ByteSpan} : Node.NamePlace nodes a → a.HasSpan span → Spot nodes span
  | argument {c : Node} : Node.ArgumentPlace nodes c → Spot nodes (Span.point c.start)

/-- Places of argument lists. -/
def Region (nodes : List Node) (span : ByteSpan) : Prop :=
  ∃ list, Node.ListPlace nodes list ∧ list.HasSpan span

theorem overlaps_of_apart {n m : Node} {a b : ByteSpan} (ha : n.HasSpan a) (hb : m.HasSpan b)
    (happart : n.Apart m) : a.overlaps b = false := by
  rw [overlaps_eq_false_iff, ha.1, ha.2, hb.1, hb.2]
  exact happart.symm

theorem contains_of_within {n m : Node} {a b : ByteSpan} (ha : n.HasSpan a) (hb : m.HasSpan b)
    (hwithin : m.Within n) : a.contains b = true := by
  rw [contains_iff, ha.1, ha.2, hb.1, hb.2]
  exact hwithin

/-- A point is held by a span or does not overlap it. -/
theorem contains_point_or (a : ByteSpan) (x : Int) :
    a.contains (Span.point x) = true ∨ a.overlaps (Span.point x) = false := by
  rw [contains_iff, overlaps_eq_false_iff]
  simp only [Span.point]
  omega

/-- **Compatible places.**  In a well-formed tree, edits of names, arguments and lists do not get
into each other's way. -/
theorem compatible {nodes : List Node} (hnodes : ∀ n ∈ nodes, n.WellFormed)
    (horder : nodes.Pairwise fun a b => a.stop ≤ b.start) :
    Edits.Compatible (Spot nodes) (Region nodes) where
  spots s t hs ht hother := by
    cases hs with
    | name ha hspan =>
        cases ht with
        | name hb hspan' =>
            rcases ha.eq_or_apart hnodes horder hb with rfl | happart
            · -- The span of a node is told by the node.
              refine absurd ?_ hother
              obtain ⟨start, stop, hordered⟩ := s
              obtain ⟨start', stop', hordered'⟩ := t
              obtain ⟨rfl, rfl⟩ := hspan
              obtain ⟨rfl, rfl⟩ := hspan'
              rfl
            · exact overlaps_of_apart hspan hspan' happart
        | argument hc =>
            rw [overlaps_eq_false_iff, hspan.1, hspan.2]
            exact hc.not_inside hnodes horder ha
    | argument hc =>
        cases ht with
        | name hb hspan =>
            rw [overlaps_eq_false_iff, hspan.1, hspan.2]
            exact (hc.not_inside hnodes horder hb).symm
        | argument hc' =>
            rw [overlaps_eq_false_iff]
            exact Int.le_total _ _
  holds r s hr hs := by
    obtain ⟨list, hlist, hspan⟩ := hr
    cases hs with
    | name ha hspan' =>
        exact (hlist.holds_or_apart hnodes horder ha).imp (contains_of_within hspan hspan')
          (overlaps_of_apart hspan hspan')
    | argument hc => exact contains_point_or r _
  nested r q hr hq := by
    obtain ⟨list, hlist, hspan⟩ := hr
    obtain ⟨other, hother, hspan'⟩ := hq
    exact (hlist.nested_or_apart hnodes horder hother).imp (contains_of_within hspan hspan')
      (Or.imp (contains_of_within hspan' hspan) (overlaps_of_apart hspan hspan'))

/-! ## Readings that succeed -/

/-- The reading succeeds, and what is read is as told. -/
def Reads {α : Type} (told : α → Prop) (reading : Reading α) : Prop :=
  ∃ value, reading = .ok value ∧ told value

namespace Reads

variable {α β : Type} {told : α → Prop} {told' : β → Prop}

theorem pure {value : α} (hvalue : told value) : Reads told (Pure.pure value : Reading α) :=
  ⟨value, rfl, hvalue⟩

theorem bind {reading : Reading α} {f : α → Reading β} (hreading : Reads told reading)
    (hf : ∀ value, told value → Reads told' (f value)) : Reads told' (reading >>= f) := by
  obtain ⟨value, rfl, hvalue⟩ := hreading
  exact hf value hvalue

theorem filterMapM {f : α → Reading (Option β)} {xs : List α}
    (hf : ∀ x ∈ xs, Reads (fun found => ∀ y ∈ found, told' y) (f x)) :
    Reads (fun found => ∀ y ∈ found, told' y) (xs.filterMapM f) := by
  induction xs with
  | nil => exact pure (by simp)
  | cons x rest ih =>
      obtain ⟨hx, hrest⟩ := List.forall_mem_cons.1 hf
      rw [List.filterMapM_cons]
      refine hx.bind fun found hfound => ?_
      cases found with
      | none => exact ih hrest
      | some y =>
          refine (ih hrest).bind fun later hlater => pure ?_
          exact List.forall_mem_cons.2 ⟨hfound y rfl, hlater⟩

theorem optionMapM {f : α → Reading β} {found : Option α}
    (hf : ∀ x ∈ found, Reads told' (f x)) :
    Reads (fun found => ∀ y ∈ found, told' y) (found.mapM f) := by
  cases found with
  | none => exact pure (by simp)
  | some x =>
      obtain ⟨y, hy, htold⟩ := hf x rfl
      refine ⟨some y, ?_, by simpa using htold⟩
      simp only [Option.mapM_some, hy]
      rfl

/-- The span of a node in order can be read. -/
theorem span {n : Node} (hn : n.WellFormed) : Reads n.HasSpan n.span := by
  refine ⟨⟨n.start, n.stop, hn.proper.ordered⟩, ?_, rfl, rfl⟩
  rw [Node.span, Span.ofBounds, dif_pos hn.proper.ordered]

end Reads

/-! ## What is read off one node -/

/-- A reference stands at the place of a name, and so does its alias. -/
def ReferencePlaced (nodes : List Node) (r : Reference) : Prop :=
  Spot nodes r.span ∧ ∀ span ∈ r.aliasSpan, Spot nodes span

/-- A declaration has its name at the place of a name. -/
def DeclarationPlaced (nodes : List Node) (d : Declaration) : Prop :=
  ∀ span ∈ d.nameSpan, Spot nodes span

/-- A call has its list at the place of a list, and its arguments start at the places of
arguments. -/
def CallPlaced (nodes : List Node) (c : Call) : Prop :=
  Region nodes c.span ∧
    ∀ a ∈ c.arguments, a.isUnpacked = false → Spot nodes (Span.point a.span.start)

section

variable {nodes : List Node} (hnodes : ∀ n ∈ nodes, n.WellFormed) {n : Node}
  (hn : Node.Reached nodes n)

theorem opens_of_declarationKind? {kind : Kind} (hkind : declarationKind? n.kind = some kind) :
    n.Opens := by
  constructor
  · intro hother
    rw [hother] at hkind
    exact absurd hkind (by decide +revert)
  · intro hother
    rw [hother] at hkind
    exact absurd hkind (by decide +revert)

include hnodes hn

theorem reads_declarationOf (s : Source) (space : Name) {kind : Kind}
    (hkind : declarationKind? n.kind = some kind) :
    Reads (fun found => ∀ d ∈ found, DeclarationPlaced nodes d)
      (declarationOf s space kind n) := by
  have hwell := hn.wellFormed hnodes
  unfold declarationOf
  cases hname : n.child? "name" with
  | none => exact Reads.pure (by simp)
  | some name =>
      have hnameKind := hwell.proper.named (by rw [hkind]; rfl) name hname
      have hreached := hn.child (opens_of_declarationKind? hkind) (Node.mem_of_child? hname)
      refine (Reads.span (hreached.wellFormed hnodes)).bind fun span hspan => Reads.pure ?_
      rintro d hd
      cases hd
      intro span' hspan'
      cases hspan'
      exact .name ⟨name, hreached, .self (by simp [isClassName, hnameKind])⟩ hspan

theorem reads_referenceOf (s : Source) (space : Name) (parent : Node)
    (hname : isClassName n = true) :
    Reads (fun found => ∀ r ∈ found, ReferencePlaced nodes r) (referenceOf s space parent n) := by
  unfold referenceOf
  dsimp only
  split
  · refine (Reads.span (hn.wellFormed hnodes)).bind fun span hspan => Reads.pure ?_
    rintro r hr
    cases hr
    refine ⟨.name ⟨n, hn, .self hname⟩ hspan, ?_⟩
    rintro span' hspan'
    cases hspan'
  · exact Reads.pure (by simp)

/-! ### Imports -/

theorem reads_importOf (s : Source) (space : Name) (group : Option Name)
    (hkind : n.kind = "namespace_use_declaration") {k : Node} (hk : n.HasClause k) :
    Reads (fun found => ∀ r ∈ found, ReferencePlaced nodes r) (importOf s space group k) := by
  have hwell := hk.wellFormed (hn.wellFormed hnodes)
  have hplace {a : Node} (ha : k.IsPart a) {span : ByteSpan} (hspan : a.HasSpan span) :
      Spot nodes span := .name ⟨n, hn, .part hkind hk ha⟩ hspan
  have hread := Node.readOff_clause k
  have hasNode : Reads (fun found => ∀ span ∈ found, Spot nodes span)
      (k.clause.asNode.mapM Node.span) := by
    refine Reads.optionMapM fun a ha => ?_
    have hwellAlias : a.WellFormed := by
      rcases hread.asNode a ha with hchild | ⟨b, hb, -, hgrandchild⟩
      · exact hwell.child hchild
      · exact (hwell.child hb).child hgrandchild
    obtain ⟨span, hspan, hhas⟩ := Reads.span hwellAlias
    exact ⟨span, hspan, hplace (Or.inr ha) hhas⟩
  unfold importOf
  rw [show k.namedChildren.foldl Clause.read { asNode := k.child? "alias" } = k.clause from rfl]
  dsimp only
  cases htarget : k.clause.target with
  | none => exact Reads.pure (by simp)
  | some target =>
      refine (Reads.span (hwell.child (hread.target target htarget).1)).bind fun span hspan => ?_
      refine hasNode.bind fun aliasSpan halias => Reads.pure ?_
      rintro r hr
      cases hr
      exact ⟨hplace (Or.inl htarget) hspan, halias⟩

theorem reads_groupImports (s : Source) (space : Name) (group : Option Name)
    (hkind : n.kind = "namespace_use_declaration") {g : Node} (hg : g ∈ n.children)
    (hgroup : g.kind = "namespace_use_group") :
    Reads (fun found => ∀ r ∈ found, ReferencePlaced nodes r) (groupImports s space group g) := by
  refine Reads.filterMapM fun k hk => ?_
  split
  · exact reads_importOf hnodes hn s space group hkind
      (.grouped hg hgroup (Node.mem_of_mem_namedChildren hk))
  · exact Reads.pure (by simp)

theorem reads_clauseImports (s : Source) (space : Name) (group : Option Name)
    (hkind : n.kind = "namespace_use_declaration") {parts : List Node}
    (hparts : ∀ c ∈ parts, c ∈ n.children) :
    Reads (fun found => ∀ r ∈ found, ReferencePlaced nodes r)
      (clauseImports s space group parts) := by
  induction parts generalizing group with
  | nil => exact Reads.pure (by simp)
  | cons c rest ih =>
      obtain ⟨hc, hrest⟩ := List.forall_mem_cons.1 hparts
      rw [clauseImports]
      split
      · exact ih _ hrest
      split
      case isTrue hclause =>
        have hsingle : n.HasClause c := .single hc (by simpa using hclause)
        refine (reads_importOf hnodes hn s space none hkind hsingle).bind fun found hfound => ?_
        refine (ih group hrest).bind fun later hlater => Reads.pure ?_
        intro r hr
        rcases List.mem_append.1 hr with hr | hr
        · exact hfound r (by simpa using hr)
        · exact hlater r hr
      split
      case isTrue hgroup =>
        have hgroup : c.kind = "namespace_use_group" := by simpa using hgroup
        refine (reads_groupImports hnodes hn s space group hkind hc hgroup).bind
          fun found hfound => ?_
        refine (ih group hrest).bind fun later hlater => Reads.pure ?_
        intro r hr
        exact (List.mem_append.1 hr).elim (hfound r) (hlater r)
      · exact ih group hrest

theorem reads_importsOf (s : Source) (space : Name) (hkind : n.kind = "namespace_use_declaration") :
    Reads (fun found => ∀ r ∈ found, ReferencePlaced nodes r) (importsOf s space n) := by
  unfold importsOf
  split
  · exact Reads.pure (by simp)
  · exact reads_clauseImports hnodes hn s space none hkind
      fun c hc => Node.mem_of_mem_namedChildren hc

/-! ### Calls -/

omit hn in
theorem reads_argumentsOf (s : Source) {list : Node} (hlist : Node.ListPlace nodes list) :
    Reads (fun found => ∀ a ∈ found, a.isUnpacked = false →
      Spot nodes (Span.point a.span.start)) (argumentsOf s list) := by
  refine Reads.filterMapM fun c hc => ?_
  have hchild := Node.mem_of_mem_namedChildren hc
  have hwell := (hlist.reached.wellFormed hnodes).child hchild
  split
  · refine (Reads.span hwell).bind fun span hspan => Reads.pure ?_
    rintro a ha hpacked
    cases ha
    cases hpacked
  split
  case isTrue hkind =>
    refine (Reads.span hwell).bind fun span hspan => Reads.pure ?_
    rintro a ha -
    cases ha
    dsimp only
    rw [hspan.1]
    exact .argument ⟨list, hlist, hchild, by simpa using hkind⟩
  · exact Reads.pure (by simp)

omit hnodes hn in
theorem bind_call (s : Source) (call : Call) (m : Node) :
    (CallFinding.bind s call m).call.span = call.span ∧
      (CallFinding.bind s call m).call.arguments = call.arguments := by
  unfold CallFinding.bind
  dsimp only
  split <;> exact ⟨rfl, rfl⟩

omit hnodes hn in
/-- Telling the class and the method leaves the arguments where they are. -/
theorem finish_call {s : Source} {kind : CallKind} {call : Call} {c : CallFinding}
    (hc : callOf.finish s kind n call = some c) :
    c.call.span = call.span ∧ c.call.arguments = call.arguments := by
  unfold callOf.finish at hc
  split at hc
  · obtain ⟨m, -, rfl⟩ := Option.map_eq_some_iff.1 hc
    exact bind_call s call m
  · split at hc
    · cases hc
      split
      · exact bind_call s _ _
      · exact ⟨rfl, rfl⟩
    · cases hc
  · cases hc
    exact ⟨rfl, rfl⟩

theorem reads_callOf (s : Source) (space : Name) (enclosing : Option Nat) {kind : CallKind}
    (hkind : callKind? n.kind = some kind) :
    Reads (fun found => ∀ c ∈ found, CallPlaced nodes c.call)
      (callOf s space enclosing kind n) := by
  unfold callOf
  rw [show (n.child? "arguments").or (n.namedChildren.find? (·.kind == "arguments")) =
    n.argumentList? from rfl]
  cases hargs : n.argumentList? with
  | none => exact Reads.pure (by simp)
  | some list =>
      have hlist : Node.ListPlace nodes list := ⟨n, hn, by rw [hkind]; rfl, hargs⟩
      refine (Reads.span (hlist.reached.wellFormed hnodes)).bind fun span hspan => ?_
      refine (reads_argumentsOf hnodes s hlist).bind fun arguments harguments => Reads.pure ?_
      intro c hc
      obtain ⟨hcallSpan, hcallArguments⟩ := finish_call hc
      unfold CallPlaced
      rw [hcallSpan, hcallArguments]
      exact ⟨⟨list, hlist, hspan⟩, harguments⟩

end

/-! ## Visiting a tree -/

/-- All that was found so far has its place. -/
structure Findings.Placed (nodes : List Node) (f : Findings) : Prop where
  declarations : ∀ d ∈ f.declarations, DeclarationPlaced nodes d
  references : ∀ r ∈ f.references, ReferencePlaced nodes r
  calls : ∀ c ∈ f.calls, CallPlaced nodes c.call

section

variable {nodes : List Node} (hnodes : ∀ n ∈ nodes, n.WellFormed) {f : Findings}
  (hf : f.Placed nodes) {v : Visit} (hv : Node.Reached nodes v.node)

include hf in
theorem Findings.Placed.append_references {found : List Reference}
    (hfound : ∀ r ∈ found, ReferencePlaced nodes r) :
    { f with references := f.references ++ found }.Placed nodes :=
  ⟨hf.declarations, fun r hr => (List.mem_append.1 hr).elim (hf.references r) (hfound r), hf.calls⟩

include hf in
theorem Findings.Placed.seeMethod (s : Source) (v : Visit) : (f.seeMethod s v).Placed nodes := by
  unfold Findings.seeMethod
  split
  · refine ⟨forall_mem_modify hf.declarations (fun d hd => ?_) _, hf.references, hf.calls⟩
    have hspan (method : String) (parameters : List String) :
        (d.putMethod method parameters).nameSpan = d.nameSpan := by
      unfold Declaration.putMethod
      split <;> rfl
    rw [DeclarationPlaced, hspan]
    exact hd
  · exact hf

include hnodes hf hv

theorem reads_seeDeclaration (s : Source) (space : Name) {kind : Kind}
    (hkind : declarationKind? v.node.kind = some kind) :
    Reads (fun found => found.1.Placed nodes) (f.seeDeclaration s space v kind) := by
  refine (reads_declarationOf hnodes hv s space hkind).bind fun found hfound => ?_
  cases found with
  | none => exact Reads.pure hf
  | some d =>
      refine Reads.pure ⟨fun d' hd' => ?_, hf.references, hf.calls⟩
      rcases List.mem_append.1 hd' with hd' | hd'
      · exact hf.declarations d' hd'
      · rw [List.mem_singleton.1 hd']
        exact hfound d rfl

theorem reads_seeStructure (s : Source) (space : Name) :
    Reads (fun found => found.1.Placed nodes) (f.seeStructure s space v) := by
  unfold Findings.seeStructure
  split
  case h_1 kind hkind => exact reads_seeDeclaration hnodes hf hv s space hkind
  split
  · exact Reads.pure hf
  split
  · exact Reads.pure (hf.seeMethod s v)
  split
  case h_1 kind hkind =>
    refine (reads_callOf hnodes hv s space v.enclosing hkind).bind fun found hfound => ?_
    refine Reads.pure ⟨hf.declarations, hf.references, fun c hc => ?_⟩
    rcases List.mem_append.1 hc with hc | hc
    · exact hf.calls c hc
    · exact hfound c (by simpa using hc)
  · exact Reads.pure hf

theorem reads_seeName (s : Source) (space : Name) :
    Reads (Findings.Placed nodes) (f.seeName s space v) := by
  unfold Findings.seeName
  split
  case isTrue hname =>
    refine (reads_referenceOf hnodes hv s space v.parent hname).bind fun found hfound => ?_
    exact Reads.pure (hf.append_references fun r hr => hfound r (by simpa using hr))
  · exact Reads.pure hf

/-- What is found at a visited node has its place, and its children are visited only if they are
reached. -/
theorem reads_see (s : Source) (space : Name) :
    Reads (fun found => found.1.Placed nodes ∧ (found.2.isSome → v.node.Opens))
      (f.see s space v) := by
  unfold Findings.see
  split
  case isTrue hkind =>
    refine (reads_importsOf hnodes hv s space (by simpa using hkind)).bind fun found hfound => ?_
    exact Reads.pure ⟨hf.append_references hfound, by simp⟩
  case isFalse himport =>
    refine (reads_seeName hnodes hf hv s space).bind fun f' hf' => ?_
    split
    · exact Reads.pure ⟨hf', by simp⟩
    case isFalse hqualified =>
      refine (reads_seeStructure hnodes hf' hv s space).bind fun found hfound => ?_
      exact Reads.pure ⟨hfound, fun _ => ⟨by simpa using himport, by simpa using hqualified⟩⟩

end

variable {nodes : List Node}

theorem reads_scan (hnodes : ∀ n ∈ nodes, n.WellFormed) (s : Source) (space : Name) {f : Findings}
    (hf : f.Placed nodes) {visits : List Visit}
    (hvisits : ∀ v ∈ visits, Node.Reached nodes v.node) :
    Reads (Findings.Placed nodes) (scan s space f visits) := by
  -- All that waits to be visited is reached: the children of a node are put before the others only
  -- if the node opens.
  fun_induction scan s space f visits with
  | case1 f => exact ⟨f, rfl, hf⟩
  | case2 f v rest disorder hsee =>
      obtain ⟨found, hfound, -⟩ := reads_see hnodes hf (hvisits v List.mem_cons_self) s space
      rw [hsee] at hfound
      cases hfound
  | case3 f v rest f' hsee ih =>
      obtain ⟨found, hfound, hplaced, -⟩ :=
        reads_see hnodes hf (hvisits v List.mem_cons_self) s space
      rw [hsee] at hfound
      cases hfound
      exact ih hplaced fun w hw => hvisits w (List.mem_cons_of_mem v hw)
  | case4 f v rest f' enclosing hsee ih =>
      obtain ⟨found, hfound, hplaced, hopens⟩ :=
        reads_see hnodes hf (hvisits v List.mem_cons_self) s space
      rw [hsee] at hfound
      cases hfound
      refine ih hplaced fun w hw => ?_
      rcases List.mem_append.1 hw with hw | hw
      · obtain ⟨c, hc, rfl⟩ := List.mem_map.1 hw
        exact (hvisits v List.mem_cons_self).child (hopens rfl) hc
      · exact hvisits w (List.mem_cons_of_mem v hw)

theorem reads_scanRoot (s : Source) {root : Node} (hnodes : ∀ n ∈ nodes, n.WellFormed)
    (space : Name) (spaces : List Name) {f : Findings} (hf : f.Placed nodes) {rest : List Node}
    (hrest : ∀ n ∈ rest, n ∈ nodes) :
    Reads (fun found => found.2.Placed nodes) (scanRoot s root space spaces f rest) := by
  induction rest generalizing space spaces f with
  | nil => exact Reads.pure hf
  | cons n rest ih =>
      obtain ⟨hn, hrest⟩ := List.forall_mem_cons.1 hrest
      rw [scanRoot]
      split
      case isTrue hkind =>
        have hkind : n.kind = "namespace_definition" := by simpa using hkind
        dsimp only
        split
        · exact ih _ _ hf hrest
        case h_2 body hbody =>
          have hreached : Node.Reached nodes body :=
            .deeper hn ⟨by simp [hkind], by simp [hkind]⟩ (.here (Node.mem_of_child? hbody))
          refine (reads_scan hnodes s _ hf (by simpa using hreached)).bind fun f' hf' => ?_
          exact ih _ _ hf' hrest
      case isFalse =>
        refine (reads_scan hnodes s space hf (by simpa using .here hn)).bind fun f' hf' => ?_
        exact ih _ _ hf' hrest

/-- **The sites of a well-formed tree.**  They can be read, and each has its place. -/
theorem reads_extract (s : Source) {root : Node} (hroot : root.WellFormed) :
    Reads (fun sites => (∀ d ∈ sites.declarations, DeclarationPlaced root.children d) ∧
      (∀ r ∈ sites.references, ReferencePlaced root.children r) ∧
      ∀ c ∈ sites.calls, CallPlaced root.children c) (extract s root) := by
  have hnothing : Findings.Placed root.children {} :=
    ⟨by simp, by simp, by simp⟩
  refine (reads_scanRoot s (fun n hn => hroot.child hn) "" [] hnothing fun n hn => hn).bind
    fun found hfound => Reads.pure ⟨fun d hd => ?_, hfound.references, fun c hc => ?_⟩
  · obtain ⟨d', hd', rfl⟩ := List.mem_map.1 hd
    exact hfound.declarations d' hd'
  · obtain ⟨c', hc', rfl⟩ := List.mem_map.1 hc
    exact hfound.calls c' hc'

end Sites

end Rechristen
