import Mathlib.Data.List.Pairwise
import Rechristen.Sites

/-!
# Where a file can be edited

Names, arguments and argument lists are looked for all over a tree, and each that is found may be
edited later.  This file shows that in a well-formed tree their places fit together: two names are
one or apart, an argument never starts inside a name, and an argument list holds a name or another
list as a whole or is apart from it.

All of this comes from one fact about two nodes that are visited (`Reached.compare`): one of them is
visited from the other, or they are apart.  Nothing is visited below a name or an import, so these
are apart from everything that does not hold them.

A tree is well formed if children lie inside their parents, in order and apart, if names have no
parts, and if classes are named by names.  One more thing is asked: a qualified name that stands
where a call has its arguments must not have any.  Its arguments would start inside a name.
-/

namespace Rechristen

namespace Node

/-! ## Nodes in order -/

/-- The node lies inside another one. -/
def Within (a b : Node) : Prop :=
  b.start ≤ a.start ∧ a.stop ≤ b.stop

/-- One of the two nodes ends before the other one starts. -/
def Apart (a b : Node) : Prop :=
  a.stop ≤ b.start ∨ b.stop ≤ a.start

/-- The argument list of a call. -/
def argumentList? (n : Node) : Option Node :=
  (n.child? "arguments").or (n.namedChildren.find? (·.kind == "arguments"))

/-- The node holds its children in order, has none if it is a name, and is named by a name if it
declares a class. -/
structure Regular (n : Node) : Prop where
  ordered : n.start ≤ n.stop
  inside : ∀ c ∈ n.children, n.start ≤ c.start ∧ c.stop ≤ n.stop
  inOrder : n.children.Pairwise fun a b => a.stop ≤ b.start
  /-- A name has no parts. -/
  leaf : n.kind = "name" → n.children = []
  /-- A class is named by a name. -/
  named : (Sites.declarationKind? n.kind).isSome → ∀ c ∈ n.child? "name", c.kind = "name"

instance (n : Node) : Decidable n.Regular :=
  decidable_of_iff (_ ∧ _ ∧ _ ∧ _ ∧ _)
    ⟨fun h => ⟨h.1, h.2.1, h.2.2.1, h.2.2.2.1, h.2.2.2.2⟩,
      fun h => ⟨h.ordered, h.inside, h.inOrder, h.leaf, h.named⟩⟩

/-- What one node of a well-formed tree is like. -/
structure Proper (n : Node) : Prop extends Regular n where
  /-- A qualified name in the place of an argument list has no arguments. -/
  listed : (Sites.callKind? n.kind).isSome → ∀ list ∈ n.argumentList?,
    list.kind = "qualified_name" → ∀ c ∈ list.children, c.kind ≠ "argument"

instance (n : Node) : Decidable n.Proper :=
  decidable_of_iff (n.Regular ∧ _) ⟨fun h => ⟨h.1, h.2⟩, fun h => ⟨h.toRegular, h.listed⟩⟩

/-- Every node of the tree is proper. -/
def WellFormed (n : Node) : Prop :=
  ∀ m ∈ n.preorder, m.Proper

instance (n : Node) : Decidable n.WellFormed :=
  inferInstanceAs (Decidable (∀ m ∈ n.preorder, m.Proper))

theorem mem_preorderAll {nodes : List Node} {m : Node} :
    m ∈ preorderAll nodes ↔ ∃ n ∈ nodes, m ∈ n.preorder := by
  induction nodes with
  | nil => simp [preorderAll]
  | cons first rest ih => simp [preorderAll, ih]

theorem preorder_eq (n : Node) : n.preorder = n :: preorderAll n.children := by
  cases n
  rw [preorder, children]

theorem WellFormed.proper {n : Node} (hn : n.WellFormed) : n.Proper :=
  hn n (by rw [preorder_eq]; exact List.mem_cons_self)

theorem WellFormed.child {n c : Node} (hn : n.WellFormed) (hc : c ∈ n.children) :
    c.WellFormed := by
  intro m hm
  refine hn m ?_
  rw [preorder_eq]
  exact List.mem_cons_of_mem n (mem_preorderAll.2 ⟨c, hc, hm⟩)

theorem Within.refl (n : Node) : n.Within n :=
  ⟨Int.le_refl _, Int.le_refl _⟩

theorem Within.trans {a b c : Node} (hab : a.Within b) (hbc : b.Within c) : a.Within c :=
  ⟨Int.le_trans hbc.1 hab.1, Int.le_trans hab.2 hbc.2⟩

theorem Apart.symm {a b : Node} (h : a.Apart b) : b.Apart a :=
  Or.symm h

instance : Std.Symm Apart :=
  ⟨fun _ _ => Apart.symm⟩

/-- What lies inside two nodes that are apart is apart. -/
theorem Apart.mono {a b a' b' : Node} (h : a.Apart b) (ha : a'.Within a) (hb : b'.Within b) :
    a'.Apart b' := by
  obtain ⟨hastart, hastop⟩ := ha
  obtain ⟨hbstart, hbstop⟩ := hb
  unfold Apart at h ⊢
  omega

theorem WellFormed.within {n c : Node} (hn : n.WellFormed) (hc : c ∈ n.children) : c.Within n :=
  hn.proper.inside c hc

/-- Two children are one or apart. -/
theorem eq_or_apart {nodes : List Node} (hnodes : nodes.Pairwise fun a b => a.stop ≤ b.start)
    {a b : Node} (ha : a ∈ nodes) (hb : b ∈ nodes) : a = b ∨ a.Apart b := by
  have happart : nodes.Pairwise Apart := hnodes.imp fun h => Or.inl h
  by_cases heq : a = b
  · exact Or.inl heq
  · exact Or.inr (happart.forall ha hb heq)

/-! ## Nodes that are visited -/

/-- What stands below the node is visited. -/
def Opens (n : Node) : Prop :=
  n.kind ≠ "namespace_use_declaration" ∧ n.kind ≠ "qualified_name"

/-- A node that is visited when some nodes are. -/
inductive Reached : List Node → Node → Prop
  | here {nodes : List Node} {n : Node} : n ∈ nodes → Reached nodes n
  | deeper {nodes : List Node} {n m : Node} :
      n ∈ nodes → n.Opens → Reached n.children m → Reached nodes m

/-- Nothing is visited below the node. -/
def Closed (n : Node) : Prop :=
  n.Opens → n.children = []

theorem Closed.not_reached {n m : Node} (hn : n.Closed) (hopens : n.Opens) :
    ¬Reached n.children m := by
  rw [hn hopens]
  intro hm
  cases hm with
  | here hmem => cases hmem
  | deeper hmem => cases hmem

namespace Reached

variable {nodes : List Node} {a b m : Node}

theorem child {c : Node} (hm : Reached nodes m) (hopens : m.Opens) (hc : c ∈ m.children) :
    Reached nodes c := by
  induction hm with
  | here hmem => exact .deeper hmem hopens (.here hc)
  | deeper hmem hn _ ih => exact .deeper hmem hn (ih hopens hc)

theorem wellFormed (hnodes : ∀ n ∈ nodes, n.WellFormed) (hm : Reached nodes m) : m.WellFormed := by
  induction hm with
  | here hmem => exact hnodes _ hmem
  | deeper hmem _ _ ih => exact ih fun c hc => (hnodes _ hmem).child hc

/-- A visited node lies inside the one from which it is visited. -/
theorem exists_within (hnodes : ∀ n ∈ nodes, n.WellFormed) (hm : Reached nodes m) :
    ∃ n ∈ nodes, m.Within n := by
  induction hm with
  | here hmem => exact ⟨_, hmem, Within.refl _⟩
  | deeper hmem _ _ ih =>
      obtain ⟨c, hc, hwithin⟩ := ih fun c hc => (hnodes _ hmem).child hc
      exact ⟨_, hmem, hwithin.trans ((hnodes _ hmem).within hc)⟩

theorem within {n : Node} (hn : n.WellFormed) (hm : Reached n.children m) : m.Within n := by
  obtain ⟨c, hc, hwithin⟩ := hm.exists_within fun c hc => hn.child hc
  exact hwithin.trans (hn.within hc)

/-- **Two visited nodes.**  They are the same, one is visited from the other, or they are apart. -/
theorem compare (hnodes : ∀ n ∈ nodes, n.WellFormed)
    (horder : nodes.Pairwise fun a b => a.stop ≤ b.start) (ha : Reached nodes a)
    (hb : Reached nodes b) :
    a = b ∨ (a.Opens ∧ Reached a.children b) ∨ (b.Opens ∧ Reached b.children a) ∨ a.Apart b := by
  -- Each of the two is one of `nodes` or below one.  If these ones differ, they are apart; if they
  -- are the same, the question is the same for its children.
  induction ha generalizing b with
  | @here nodes a hmem =>
      cases hb with
      | here hmem' =>
          rcases eq_or_apart horder hmem hmem' with heq | happart
          · exact Or.inl heq
          · exact Or.inr (Or.inr (Or.inr happart))
      | @deeper _ n _ hmem' hopens hbelow =>
          rcases eq_or_apart horder hmem hmem' with rfl | happart
          · exact Or.inr (Or.inl ⟨hopens, hbelow⟩)
          · exact Or.inr (Or.inr (Or.inr
              (happart.mono (Within.refl a) (within (hnodes n hmem') hbelow))))
  | @deeper nodes n a hmem hopens hbelow ih =>
      cases hb with
      | here hmem' =>
          rcases eq_or_apart horder hmem hmem' with rfl | happart
          · exact Or.inr (Or.inr (Or.inl ⟨hopens, hbelow⟩))
          · exact Or.inr (Or.inr (Or.inr
              (happart.mono (within (hnodes n hmem) hbelow) (Within.refl b))))
      | @deeper _ n' _ hmem' hopens' hbelow' =>
          rcases eq_or_apart horder hmem hmem' with rfl | happart
          · exact ih (fun c hc => (hnodes n hmem).child hc) (hnodes n hmem).proper.inOrder hbelow'
          · exact Or.inr (Or.inr (Or.inr (happart.mono (within (hnodes n hmem) hbelow)
              (within (hnodes n' hmem') hbelow'))))

/-- A node below which nothing is visited is inside another one, or the other one is apart. -/
theorem within_or_apart (hnodes : ∀ n ∈ nodes, n.WellFormed)
    (horder : nodes.Pairwise fun a b => a.stop ≤ b.start) (ha : Reached nodes a)
    (hb : Reached nodes b) (hclosed : b.Closed) :
    b = a ∨ (a.Opens ∧ Reached a.children b) ∨ a.Apart b := by
  rcases ha.compare hnodes horder hb with rfl | hbelow | ⟨hopens, hbelow⟩ | happart
  · exact Or.inl rfl
  · exact Or.inr (Or.inl hbelow)
  · exact absurd hbelow (hclosed.not_reached hopens)
  · exact Or.inr (Or.inr happart)

end Reached

/-! ## The parts of imports -/

/-- What is read off an import clause. -/
def clause (n : Node) : Sites.Clause :=
  n.namedChildren.foldl Sites.Clause.read { asNode := n.child? "alias" }

theorem mem_of_child? {n c : Node} {field : String} (hc : n.child? field = some c) :
    c ∈ n.children :=
  List.mem_of_find?_eq_some hc

theorem mem_of_mem_namedChildren {n c : Node} (hc : c ∈ n.namedChildren) : c ∈ n.children :=
  (List.mem_filter.1 hc).1

/-- What was read off a clause so far: what is imported is a child, and the alias is one or stands
in one that is there for aliases. -/
structure ReadOff (n : Node) (c : Sites.Clause) : Prop where
  target : ∀ a ∈ c.target, a ∈ n.children ∧ a.kind ≠ "namespace_aliasing_clause"
  asNode : ∀ a ∈ c.asNode, a ∈ n.children ∨
    ∃ b ∈ n.children, b.kind = "namespace_aliasing_clause" ∧ a ∈ b.children

theorem ReadOff.read {n child : Node} {c : Sites.Clause} (hc : n.ReadOff c)
    (hchild : child ∈ n.children) : n.ReadOff (c.read child) := by
  unfold Sites.Clause.read
  split
  · exact hc
  split
  case isTrue hname =>
    refine ⟨fun a ha => ?_, hc.asNode⟩
    cases ha
    refine ⟨hchild, fun hkind => ?_⟩
    simp [Sites.isClassName, hkind] at hname
  split
  case isTrue hkind =>
    refine ⟨hc.target, fun a ha => Or.inr ⟨child, hchild, by simpa using hkind, ?_⟩⟩
    exact mem_of_mem_namedChildren (List.mem_of_find?_eq_some ha)
  split
  · refine ⟨hc.target, fun a ha => ?_⟩
    cases ha
    exact Or.inl hchild
  · exact hc

theorem readOff_clause (n : Node) : n.ReadOff n.clause := by
  have hread (children : List Node) (hchildren : ∀ c ∈ children, c ∈ n.children)
      (c : Sites.Clause) (hc : n.ReadOff c) : n.ReadOff (children.foldl Sites.Clause.read c) := by
    induction children generalizing c with
    | nil => exact hc
    | cons first rest ih =>
        exact ih (fun c hc => hchildren c (List.mem_cons_of_mem first hc)) _
          (hc.read (hchildren first List.mem_cons_self))
  refine hread _ (fun c hc => mem_of_mem_namedChildren hc) _ ⟨fun a ha => ?_, fun a ha => ?_⟩
  · cases ha
  · exact Or.inl (mem_of_child? ha)

/-- The node is what a clause imports, or the name under which it does. -/
def IsPart (n a : Node) : Prop :=
  n.clause.target = some a ∨ n.clause.asNode = some a

theorem IsPart.within {n a : Node} (hn : n.WellFormed) (ha : n.IsPart a) : a.Within n := by
  rcases ha with ha | ha
  · exact hn.within ((readOff_clause n).target a ha).1
  · rcases (readOff_clause n).asNode a ha with hchild | ⟨b, hb, -, hgrandchild⟩
    · exact hn.within hchild
    · exact ((hn.child hb).within hgrandchild).trans (hn.within hb)

/-- What is imported and the alias are one or apart. -/
theorem target_alias {n a b : Node} (hn : n.WellFormed) (ha : n.clause.target = some a)
    (hb : n.clause.asNode = some b) : a = b ∨ a.Apart b := by
  obtain ⟨hchild, hkind⟩ := (readOff_clause n).target a ha
  rcases (readOff_clause n).asNode b hb with hchild' | ⟨c, hc, hkind', hgrandchild⟩
  · exact eq_or_apart hn.proper.inOrder hchild hchild'
  · rcases eq_or_apart hn.proper.inOrder hchild hc with rfl | happart
    · exact absurd hkind' hkind
    · exact Or.inr (happart.mono (Within.refl a) ((hn.child hc).within hgrandchild))

theorem IsPart.eq_or_apart {n a b : Node} (hn : n.WellFormed) (ha : n.IsPart a) (hb : n.IsPart b) :
    a = b ∨ a.Apart b := by
  rcases ha with ha | ha <;> rcases hb with hb | hb
  · exact Or.inl (Option.some.inj (ha.symm.trans hb))
  · exact target_alias hn ha hb
  · exact (target_alias hn hb ha).imp Eq.symm Apart.symm
  · exact Or.inl (Option.some.inj (ha.symm.trans hb))

/-- A clause of an import declaration, by itself or in a group. -/
inductive HasClause (n : Node) : Node → Prop
  | single {k : Node} : k ∈ n.children → k.kind = "namespace_use_clause" → HasClause n k
  | grouped {g k : Node} : g ∈ n.children → g.kind = "namespace_use_group" → k ∈ g.children →
      HasClause n k

namespace HasClause

variable {n k l : Node}

theorem wellFormed (hn : n.WellFormed) (hk : n.HasClause k) : k.WellFormed := by
  cases hk with
  | single hmem => exact hn.child hmem
  | grouped hg _ hmem => exact (hn.child hg).child hmem

/-- A clause lies inside a child that is no argument. -/
theorem exists_within (hn : n.WellFormed) (hk : n.HasClause k) :
    ∃ c ∈ n.children, c.kind ≠ "argument" ∧ k.Within c := by
  cases hk with
  | single hmem hkind => exact ⟨k, hmem, by simp [hkind], Within.refl k⟩
  | grouped hg hkind hmem => exact ⟨_, hg, by simp [hkind], (hn.child hg).within hmem⟩

theorem eq_or_apart (hn : n.WellFormed) (hk : n.HasClause k) (hl : n.HasClause l) :
    k = l ∨ k.Apart l := by
  cases hk with
  | single hmem hkind =>
      cases hl with
      | single hmem' => exact Node.eq_or_apart hn.proper.inOrder hmem hmem'
      | grouped hg hkind' hmem' =>
          rcases Node.eq_or_apart hn.proper.inOrder hmem hg with rfl | happart
          · simp [hkind] at hkind'
          · exact Or.inr (happart.mono (Within.refl k) ((hn.child hg).within hmem'))
  | grouped hg hkind hmem =>
      cases hl with
      | single hmem' hkind' =>
          rcases Node.eq_or_apart hn.proper.inOrder hg hmem' with rfl | happart
          · simp [hkind] at hkind'
          · exact Or.inr (happart.mono ((hn.child hg).within hmem) (Within.refl l))
      | grouped hg' _ hmem' =>
          rcases Node.eq_or_apart hn.proper.inOrder hg hg' with rfl | happart
          · exact Node.eq_or_apart (hn.child hg).proper.inOrder hmem hmem'
          · exact Or.inr (happart.mono ((hn.child hg).within hmem) ((hn.child hg').within hmem'))

end HasClause

/-! ## Names -/

/-- A node with a name to be edited: it is a name itself, or an import of which the name is a
part. -/
inductive HoldsName (n : Node) : Node → Prop
  | self : Sites.isClassName n = true → HoldsName n n
  | part {k a : Node} : n.kind = "namespace_use_declaration" → n.HasClause k → k.IsPart a →
      HoldsName n a

namespace HoldsName

variable {n a b : Node}

theorem closed (hn : n.WellFormed) (ha : n.HoldsName a) : n.Closed := by
  intro hopens
  cases ha with
  | self hname =>
      simp only [Sites.isClassName, Bool.or_eq_true, beq_iff_eq] at hname
      exact hn.proper.leaf (hname.resolve_right hopens.2)
  | part hkind => exact absurd hkind hopens.1

theorem within (hn : n.WellFormed) (ha : n.HoldsName a) : a.Within n := by
  cases ha with
  | self => exact Within.refl n
  | part _ hk hpart =>
      obtain ⟨c, hc, -, hwithin⟩ := hk.exists_within hn
      exact (hpart.within (hk.wellFormed hn)).trans (hwithin.trans (hn.within hc))

theorem eq_or_apart (hn : n.WellFormed) (ha : n.HoldsName a) (hb : n.HoldsName b) :
    a = b ∨ a.Apart b := by
  cases ha with
  | self hname =>
      cases hb with
      | self => exact Or.inl rfl
      | part hkind => simp [Sites.isClassName, hkind] at hname
  | part hkind hk hpart =>
      cases hb with
      | self hname => simp [Sites.isClassName, hkind] at hname
      | part _ hk' hpart' =>
          rcases hk.eq_or_apart hn hk' with rfl | happart
          · exact hpart.eq_or_apart (hk.wellFormed hn) hpart'
          · exact Or.inr (happart.mono (hpart.within (hk.wellFormed hn))
              (hpart'.within (hk'.wellFormed hn)))

end HoldsName

/-- The place of a name in what is visited. -/
def NamePlace (nodes : List Node) (a : Node) : Prop :=
  ∃ n, Reached nodes n ∧ n.HoldsName a

/-! ## Argument lists -/

/-- The place of the argument list of a call. -/
def ListPlace (nodes : List Node) (list : Node) : Prop :=
  ∃ n, Reached nodes n ∧ (Sites.callKind? n.kind).isSome ∧ n.argumentList? = some list

/-- The place of an argument in such a list. -/
def ArgumentPlace (nodes : List Node) (c : Node) : Prop :=
  ∃ list, ListPlace nodes list ∧ c ∈ list.children ∧ c.kind = "argument"

theorem opens_of_callKind? {n : Node} (hcall : (Sites.callKind? n.kind).isSome) : n.Opens := by
  constructor
  · intro hkind
    rw [hkind] at hcall
    exact absurd hcall (by decide)
  · intro hkind
    rw [hkind] at hcall
    exact absurd hcall (by decide)

theorem mem_of_argumentList? {n list : Node} (hlist : n.argumentList? = some list) :
    list ∈ n.children := by
  rcases Option.or_eq_some_iff.1 hlist with hchild | ⟨-, hfind⟩
  · exact mem_of_child? hchild
  · exact mem_of_mem_namedChildren (List.mem_of_find?_eq_some hfind)

theorem ListPlace.reached {nodes : List Node} {list : Node} (hlist : ListPlace nodes list) :
    Reached nodes list := by
  obtain ⟨n, hn, hcall, hargs⟩ := hlist
  exact hn.child (opens_of_callKind? hcall) (mem_of_argumentList? hargs)

/-- An argument of a list that is itself a name or an import does not start inside that name. -/
theorem HoldsName.argument {n list c a : Node} (hn : n.WellFormed)
    (hcall : (Sites.callKind? n.kind).isSome) (hargs : n.argumentList? = some list)
    (hc : c ∈ list.children) (hkind : c.kind = "argument") (ha : list.HoldsName a) :
    c.start ≤ a.start ∨ a.stop ≤ c.start := by
  have hlist := hn.child (mem_of_argumentList? hargs)
  cases ha with
  | self hname =>
      simp only [Sites.isClassName, Bool.or_eq_true, beq_iff_eq] at hname
      rcases hname with hname | hname
      · rw [hlist.proper.leaf hname] at hc
        cases hc
      · exact absurd hkind (hn.proper.listed hcall list hargs hname c hc)
  | part _ hk hpart =>
      obtain ⟨d, hd, hother, hwithin⟩ := hk.exists_within hlist
      have hinside := (hpart.within (hk.wellFormed hlist)).trans hwithin
      rcases Node.eq_or_apart hlist.proper.inOrder hc hd with rfl | happart
      · exact absurd hkind hother
      · have hordered := (hlist.child hc).proper.ordered
        obtain ⟨hstart, hstop⟩ := hinside
        unfold Apart at happart
        omega

section Places

variable {nodes : List Node} (hnodes : ∀ n ∈ nodes, n.WellFormed)
  (horder : nodes.Pairwise fun a b => a.stop ≤ b.start)

include hnodes horder

/-- Two names are one or apart. -/
theorem NamePlace.eq_or_apart {a b : Node} (ha : NamePlace nodes a) (hb : NamePlace nodes b) :
    a = b ∨ a.Apart b := by
  obtain ⟨n, hn, ha⟩ := ha
  obtain ⟨m, hm, hb⟩ := hb
  have hwn := hn.wellFormed hnodes
  have hwm := hm.wellFormed hnodes
  rcases hn.within_or_apart hnodes horder hm (hb.closed hwm) with rfl | ⟨hopens, hbelow⟩ | happart
  · exact ha.eq_or_apart hwn hb
  · -- Nothing is visited below what holds a name.
    exact absurd hbelow ((ha.closed hwn).not_reached hopens)
  · exact Or.inr (happart.mono (ha.within hwn) (hb.within hwm))

/-- A list holds a name as a whole or is apart from it. -/
theorem ListPlace.holds_or_apart {list a : Node} (hlist : ListPlace nodes list)
    (ha : NamePlace nodes a) : a.Within list ∨ list.Apart a := by
  obtain ⟨n, hn, ha⟩ := ha
  have hwn := hn.wellFormed hnodes
  rcases hlist.reached.within_or_apart hnodes horder hn (ha.closed hwn) with
    rfl | ⟨-, hbelow⟩ | happart
  · exact Or.inl (ha.within hwn)
  · exact Or.inl ((ha.within hwn).trans (hbelow.within (hlist.reached.wellFormed hnodes)))
  · exact Or.inr (happart.mono (Within.refl list) (ha.within hwn))

/-- Of two lists one holds the other as a whole, or they are apart. -/
theorem ListPlace.nested_or_apart {list other : Node} (hlist : ListPlace nodes list)
    (hother : ListPlace nodes other) :
    other.Within list ∨ list.Within other ∨ list.Apart other := by
  rcases hlist.reached.compare hnodes horder hother.reached with
    rfl | ⟨-, hbelow⟩ | ⟨-, hbelow⟩ | happart
  · exact Or.inl (Within.refl list)
  · exact Or.inl (hbelow.within (hlist.reached.wellFormed hnodes))
  · exact Or.inr (Or.inl (hbelow.within (hother.reached.wellFormed hnodes)))
  · exact Or.inr (Or.inr happart)

/-- No argument starts inside a name. -/
theorem ArgumentPlace.not_inside {c a : Node} (hc : ArgumentPlace nodes c)
    (ha : NamePlace nodes a) : c.start ≤ a.start ∨ a.stop ≤ c.start := by
  obtain ⟨list, hlist, hmem, hkind⟩ := hc
  obtain ⟨m, hm, ha⟩ := ha
  have hwl := hlist.reached.wellFormed hnodes
  have hwm := hm.wellFormed hnodes
  have hordered := (hwl.child hmem).proper.ordered
  rcases hlist.reached.within_or_apart hnodes horder hm (ha.closed hwm) with
    rfl | ⟨-, hbelow⟩ | happart
  · obtain ⟨n, hn, hcall, hargs⟩ := hlist
    exact ha.argument (hn.wellFormed hnodes) hcall hargs hmem hkind
  · -- The name lies inside a child of the list: inside the argument, before it or behind it.
    obtain ⟨d, hd, hwithin⟩ := hbelow.exists_within fun c hc => hwl.child hc
    obtain ⟨hstart, hstop⟩ := (ha.within hwm).trans hwithin
    rcases Node.eq_or_apart hwl.proper.inOrder hmem hd with rfl | happart
    · exact Or.inl hstart
    · unfold Apart at happart
      omega
  · have happart := happart.mono (hwl.within hmem) (ha.within hwm)
    unfold Apart at happart
    omega

end Places

end Node

end Rechristen
