import Rechristen.Proofs.DeclarationTable.Search

/-!
# The nearest definition of a method

The search for a method follows a sequence of keys: that of the class asked for, then that of the
class it extends, and so on, each brought up to date by the registry.  The sequence may end at a
name that is not declared or at a class that extends nothing, and it may run in a circle, which the
classes, the registry or both together can close.

`parameters_nearest` describes the search by this sequence alone.  It ends after at most as many
rounds as the table has names, and one more: up to then it has found the method, come to an end of
the sequence or met a key again, because the keys on the way are different keys of the table.  If a
key is met again the sequence repeats itself, so nothing is missed by giving up there
(`parametersAt_of_deadEnd`).
-/

namespace Rechristen.DeclarationTable

section

variable (t : DeclarationTable) (declarations : List Declaration) (present : Name → Name)
  (method : String)

/-- The declaration a key stands for. -/
def declaration? (key : Name.Key) : Option Declaration :=
  (t.find? key).bind (declarations[·]?)

/-- The keys met one after the other, beginning with that of a name and going on with that of what
each class extends. -/
def lineage : Name → Nat → Option Name.Key
  | name, 0 => some (present name).key
  | name, k + 1 =>
    ((t.declaration? declarations (present name).key).bind Declaration.parent).bind (lineage · k)

/-- The parameters that the class in a place of the sequence gives to the method, if it defines
it. -/
def parametersAt (name : Name) (k : Nat) : Option (List String) :=
  ((t.lineage declarations present name k).bind (t.declaration? declarations)).bind
    (·.parametersOf? method)

/-- The sequence comes to a name that is not declared, to a class that extends nothing, or to a key
it has met before. -/
def DeadEnd (name : Name) (k : Nat) : Prop :=
  ∃ key, t.lineage declarations present name k = some key ∧
    (t.declaration? declarations key = none ∨
      (∃ d, t.declaration? declarations key = some d ∧ d.parent = none) ∨
      ∃ j < k, t.lineage declarations present name j = some key)

/-- What is to be seen in the round in which a search gives its answer, if it has met the keys
`seen` before. -/
def Concludes (seen : List Name.Key) (name : Name) (k : Nat) : Option (List String) → Prop
  | some parameters => t.parametersAt declarations present method name k = some parameters
  | none =>
    (∃ key ∈ seen, t.lineage declarations present name k = some key) ∨
      (t.DeadEnd declarations present name k ∧
        t.parametersAt declarations present method name k = none)

end

/-- Names as they are now, if a registry is given. -/
def presentName (registry : Option Registry) (name : Name) : Name :=
  (registry.map (·.resolve name)).getD name

variable {t : DeclarationTable} {declarations : List Declaration} {present : Name → Name}
  {method : String} {seen : List Name.Key} {name parent : Name} {d : Declaration}

/-! ## The sequence -/

theorem lineage_succ (hd : t.declaration? declarations (present name).key = some d)
    (hparent : d.parent = some parent) (k : Nat) :
    t.lineage declarations present name (k + 1) = t.lineage declarations present parent k := by
  rw [lineage, hd, Option.bind_some, hparent, Option.bind_some]

theorem parametersAt_succ (hd : t.declaration? declarations (present name).key = some d)
    (hparent : d.parent = some parent) (k : Nat) :
    t.parametersAt declarations present method name (k + 1) =
      t.parametersAt declarations present method parent k := by
  rw [parametersAt, parametersAt, lineage_succ hd hparent]

theorem parametersAt_zero (name : Name) :
    t.parametersAt declarations present method name 0 =
      (t.declaration? declarations (present name).key).bind (·.parametersOf? method) := rfl

/-- From any place on, the sequence is the sequence of a name with the key in that place. -/
theorem exists_lineage_add {i : Nat} {key : Name.Key}
    (hkey : t.lineage declarations present name i = some key) :
    ∃ later, (present later).key = key ∧
      ∀ m, t.lineage declarations present name (i + m) =
        t.lineage declarations present later m := by
  induction i generalizing name with
  | zero => exact ⟨name, Option.some.inj hkey, fun m => by rw [Nat.zero_add]⟩
  | succ i ih =>
      rw [lineage] at hkey
      obtain ⟨parent, hparent, hrest⟩ := Option.bind_eq_some_iff.1 hkey
      obtain ⟨later, hlater, hshift⟩ := ih hrest
      refine ⟨later, hlater, fun m => ?_⟩
      rw [Nat.succ_add_eq_add_succ, ← hshift, Nat.add_succ, lineage, hparent, Option.bind_some]

/-- The key in a place decides what follows. -/
theorem lineage_congr {later : Name} (hkey : (present name).key = (present later).key) (m : Nat) :
    t.lineage declarations present name m = t.lineage declarations present later m := by
  cases m with
  | zero => rw [lineage, lineage, hkey]
  | succ m => rw [lineage, lineage, hkey]

/-- After a key that is met again the sequence goes on as it did after the first time. -/
theorem lineage_repeats {i j : Nat} {key : Name.Key}
    (hi : t.lineage declarations present name i = some key)
    (hj : t.lineage declarations present name j = some key) (m : Nat) :
    t.lineage declarations present name (i + m) = t.lineage declarations present name (j + m) := by
  obtain ⟨first, hfirst, hshift⟩ := exists_lineage_add hi
  obtain ⟨second, hsecond, hshift'⟩ := exists_lineage_add hj
  rw [hshift, hshift']
  exact lineage_congr (hfirst.trans hsecond.symm) m

/-- Nothing follows a name that is not declared or a class that extends nothing. -/
theorem lineage_stops {k : Nat} {key : Name.Key}
    (hkey : t.lineage declarations present name k = some key)
    (hend : (t.declaration? declarations key).bind Declaration.parent = none) (m : Nat) :
    t.lineage declarations present name (k + (m + 1)) = none := by
  obtain ⟨later, rfl, hshift⟩ := exists_lineage_add hkey
  rw [hshift, lineage, hend, Option.bind_none]

/-- **Nothing is missed at a dead end.**  If the method is not found up to there, it is found
nowhere in the sequence. -/
theorem parametersAt_of_deadEnd {k : Nat} (hdead : t.DeadEnd declarations present name k)
    (hnone : ∀ j ≤ k, t.parametersAt declarations present method name j = none) (m : Nat) :
    t.parametersAt declarations present method name m = none := by
  induction m using Nat.strongRecOn with
  | ind m ih =>
      rcases Nat.lt_or_ge k m with hlater | hup
      · obtain ⟨key, hkey, hcases⟩ := hdead
        obtain ⟨n, rfl⟩ := Nat.exists_eq_add_of_lt hlater
        have hstops : (t.declaration? declarations key).bind Declaration.parent = none →
            t.parametersAt declarations present method name (k + n + 1) = none := by
          intro hend
          rw [parametersAt, Nat.add_assoc, lineage_stops hkey hend]
          rfl
        rcases hcases with hunknown | ⟨d, hd, hparent⟩ | ⟨j, hj, hmet⟩
        · exact hstops (by rw [hunknown, Option.bind_none])
        · exact hstops (by rw [hd, Option.bind_some, hparent])
        · -- The sequence was in the same place some rounds earlier.
          rw [parametersAt, Nat.add_assoc, lineage_repeats hkey hmet]
          exact ih (j + (n + 1)) (by omega)
      · exact hnone m hup

/-! ## The search -/

/-- The answer of a search that goes on with what a class extends is given one round later. -/
theorem Concludes.succ (hd : t.declaration? declarations (present name).key = some d)
    (hparent : d.parent = some parent) {k : Nat} {answer : Option (List String)}
    (hconcludes : t.Concludes declarations present method ((present name).key :: seen) parent k
      answer)
    (hnone : t.parametersAt declarations present method name 0 = none) :
    t.Concludes declarations present method seen name (k + 1) answer := by
  cases answer with
  | some parameters => exact (parametersAt_succ hd hparent k).trans hconcludes
  | none =>
      rcases hconcludes with ⟨key, hmem, hkey⟩ | ⟨⟨key, hkey, hcases⟩, hfound⟩
      · rw [← lineage_succ hd hparent] at hkey
        rcases List.mem_cons.1 hmem with rfl | hmem
        · -- The key is that of the class at hand, in which the method is not defined.
          refine Or.inr ⟨⟨(present name).key, hkey, Or.inr (Or.inr ⟨0, by omega, rfl⟩)⟩, ?_⟩
          rw [parametersAt, hkey]
          exact hnone
        · exact Or.inl ⟨key, hmem, hkey⟩
      · refine Or.inr ⟨⟨key, (lineage_succ hd hparent k).trans hkey, ?_⟩,
          (parametersAt_succ hd hparent k).trans hfound⟩
        refine hcases.imp_right (Or.imp_right ?_)
        rintro ⟨j, hj, hmet⟩
        exact ⟨j + 1, by omega, (lineage_succ hd hparent j).trans hmet⟩

/-- A search with enough steps left gives its answer in a round that the keys of the table bound. -/
theorem searchParameters_concludes (hnodup : seen.Nodup) (hknown : seen ⊆ t.byName.map Prod.fst)
    {steps : Nat} (hsteps : t.size < steps + seen.length) :
    ∃ k, k + seen.length ≤ t.size ∧
      (∀ j < k, t.parametersAt declarations present method name j = none) ∧
      t.Concludes declarations present method seen name k
        (t.searchParameters declarations present method steps seen name) := by
  have hroom : seen.length ≤ t.size := by
    simpa [size] using hnodup.length_le_of_subset hknown
  induction steps generalizing seen name with
  | zero => omega
  | succ steps ih =>
      -- In all cases but the last one the answer is given in this round.
      have hnow : ∀ {answer}, t.Concludes declarations present method seen name 0 answer →
          ∃ k, k + seen.length ≤ t.size ∧
            (∀ j < k, t.parametersAt declarations present method name j = none) ∧
            t.Concludes declarations present method seen name k answer :=
        fun hanswer => ⟨0, by omega, fun j hj => absurd hj (Nat.not_lt_zero j), hanswer⟩
      rw [searchParameters]
      split
      case isTrue hmet => exact hnow (Or.inl ⟨_, hmet, rfl⟩)
      case isFalse hfresh =>
        split
        case h_1 hunknown =>
          refine hnow (Or.inr ⟨⟨_, rfl, Or.inl hunknown⟩, ?_⟩)
          rw [parametersAt_zero, declaration?, hunknown, Option.bind_none]
        case h_2 d hd =>
          have hzero : t.parametersAt declarations present method name 0 =
              d.parametersOf? method := by
            rw [parametersAt_zero, declaration?, hd, Option.bind_some]
          split
          case h_1 parameters hown => exact hnow (hzero.trans hown)
          case h_2 hnone =>
            split
            case h_1 horphan =>
              exact hnow (Or.inr ⟨⟨_, rfl, Or.inr (Or.inl ⟨d, hd, horphan⟩)⟩, hzero.trans hnone⟩)
            case h_2 parent hparent =>
              have hnodup' : ((present name).key :: seen).Nodup :=
                List.nodup_cons.2 ⟨hfresh, hnodup⟩
              have hknown' : (present name).key :: seen ⊆ t.byName.map Prod.fst := by
                obtain ⟨id, hid, -⟩ := Option.bind_eq_some_iff.1 hd
                exact List.cons_subset.2 ⟨key_mem_of_find? hid, hknown⟩
              have hroom' : ((present name).key :: seen).length ≤ t.size := by
                simpa [size] using hnodup'.length_le_of_subset hknown'
              have hlength : ((present name).key :: seen).length = seen.length + 1 := rfl
              obtain ⟨k, hk, hbefore, hconcludes⟩ := ih hnodup' hknown' (by omega) hroom'
              refine ⟨k + 1, by omega, ?_, hconcludes.succ hd hparent (hzero.trans hnone)⟩
              intro j hj
              cases j with
              | zero => exact hzero.trans hnone
              | succ j => exact (parametersAt_succ hd hparent j).trans (hbefore j (by omega))

/-- The search begins with no keys met and with one step more than the table has names. -/
theorem parameters_concludes (t : DeclarationTable) (declarations : List Declaration)
    (registry : Option Registry) (name : Name) (method : String) :
    ∃ k ≤ t.size,
      (∀ j < k, t.parametersAt declarations (presentName registry) (Text.lowercase method) name j =
        none) ∧
      t.Concludes declarations (presentName registry) (Text.lowercase method) [] name k
        (t.parameters declarations registry name method) :=
  searchParameters_concludes List.nodup_nil (List.nil_subset _) (Nat.lt_succ_self t.size)

/-- The first class that defines the method is in one place only. -/
theorem first_unique {k k' : Nat} {parameters parameters' : List String}
    (hfound : t.parametersAt declarations present method name k = some parameters)
    (hbefore : ∀ j < k, t.parametersAt declarations present method name j = none)
    (hfound' : t.parametersAt declarations present method name k' = some parameters')
    (hbefore' : ∀ j < k', t.parametersAt declarations present method name j = none) :
    parameters = parameters' := by
  rcases Nat.lt_trichotomy k k' with hlt | rfl | hlt
  · rw [hbefore' k hlt] at hfound
    cases hfound
  · exact Option.some.inj (hfound.symm.trans hfound')
  · rw [hbefore k' hlt] at hfound'
    cases hfound'

/-- **The nearest definition.**  Take any table, with a registry or without one, any class and any
method, written in any letter case.  The search ends: in one of the rounds up to the size of the
table it finds the method or comes to a dead end.  It gives the parameters of the first class in the
sequence that defines the method, and it gives nothing exactly if the sequence comes to a dead end
without any. -/
theorem parameters_nearest (t : DeclarationTable) (declarations : List Declaration)
    (registry : Option Registry) (name : Name) (method : String) :
    (∃ k ≤ t.size,
      (t.parametersAt declarations (presentName registry) (Text.lowercase method) name k).isSome ∨
        t.DeadEnd declarations (presentName registry) name k) ∧
    (∀ parameters, t.parameters declarations registry name method = some parameters ↔
      ∃ k, t.parametersAt declarations (presentName registry) (Text.lowercase method) name k =
          some parameters ∧
        ∀ j < k, t.parametersAt declarations (presentName registry) (Text.lowercase method) name j =
          none) ∧
    (t.parameters declarations registry name method = none ↔
      ∃ k, t.DeadEnd declarations (presentName registry) name k ∧
        ∀ j ≤ k, t.parametersAt declarations (presentName registry) (Text.lowercase method) name j =
          none) := by
  obtain ⟨k, hk, hbefore, hconcludes⟩ :=
    parameters_concludes t declarations registry name method
  generalize t.parameters declarations registry name method = answer at hconcludes ⊢
  cases answer with
  | some found =>
      refine ⟨⟨k, hk, Or.inl (Option.isSome_of_eq_some hconcludes)⟩, fun parameters => ⟨?_, ?_⟩,
        iff_of_false (Option.some_ne_none found) ?_⟩
      · rintro ⟨rfl⟩
        exact ⟨k, hconcludes, hbefore⟩
      · rintro ⟨k', hfound, hfirst⟩
        exact congrArg some (first_unique hconcludes hbefore hfound hfirst)
      · rintro ⟨k', hdead, hnone⟩
        have hnowhere := parametersAt_of_deadEnd hdead hnone k
        exact Option.some_ne_none found (hconcludes.symm.trans hnowhere)
  | none =>
      obtain ⟨hdead, hhere⟩ := hconcludes.resolve_left fun ⟨_, hmem, _⟩ => List.not_mem_nil hmem
      have hnone : ∀ j ≤ k, t.parametersAt declarations (presentName registry)
          (Text.lowercase method) name j = none := by
        intro j hj
        rcases Nat.lt_or_eq_of_le hj with hlt | rfl
        · exact hbefore j hlt
        · exact hhere
      refine ⟨⟨k, hk, Or.inr hdead⟩, fun parameters => iff_of_false (Option.some_ne_none _).symm ?_,
        iff_of_true rfl ⟨k, hdead, hnone⟩⟩
      rintro ⟨k', hfound, -⟩
      have hnowhere := parametersAt_of_deadEnd hdead hnone k'
      exact Option.some_ne_none parameters (hfound.symm.trans hnowhere)

-- Two classes extend each other, one of them by a name that the other has given up.
example :
    let of_ (short : Name) (parent : Name) (methods : List (String × List String)) : Declaration :=
      { shortName := short, space := "", kind := .class_, path := ⟨"", [short]⟩,
        parent := some parent, methods }
    let declarations := [of_ "A" "Former" [], of_ "B" "A" [("stop", ["signal"])]]
    let table : DeclarationTable := { byName := declarations.mapIdx fun id d => (d.key, id) }
    let registry : Registry := ⟨[⟨"Former", "B"⟩]⟩
    table.parameters declarations (some registry) "a" "Stop" = some ["signal"] ∧
      table.parameters declarations (some registry) "a" "start" = none ∧
      table.parameters declarations none "a" "Stop" = none := by
  decide +kernel

end Rechristen.DeclarationTable
