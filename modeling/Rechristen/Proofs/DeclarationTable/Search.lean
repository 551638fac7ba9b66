import Rechristen.Proofs.DeclarationTable

/-!
# The search for a method

The parameters of a method are looked up at a class, then at the class it extends, and so on, until
one of them defines the method.  The search gives up at a class that it met before.  It is bounded
by the size of the table, but no search that finds something ever comes to that bound
(`parameters_eq_some_iff`): the keys met on the way are different keys of the table.
-/

namespace Rechristen.DeclarationTable

section

variable (t : DeclarationTable) (declarations : List Declaration) (present : Name → Name)
  (method : String)

/-- A class has the parameters of a method: it defines the method itself, or the class it extends
has them.  Classes are told by the keys of their present names, and none of those in `seen` is
met. -/
inductive Inherits : List Name.Key → Name → List String → Prop
  | own {seen : List Name.Key} {name : Name} {id : DeclarationId} {d : Declaration}
      {parameters : List String} :
      (present name).key ∉ seen → t.find? (present name).key = some id →
      declarations[id]? = some d → d.parametersOf? method = some parameters →
      Inherits seen name parameters
  | parent {seen : List Name.Key} {name parent : Name} {id : DeclarationId} {d : Declaration}
      {parameters : List String} :
      (present name).key ∉ seen → t.find? (present name).key = some id →
      declarations[id]? = some d → d.parametersOf? method = none → d.parent = some parent →
      Inherits ((present name).key :: seen) parent parameters → Inherits seen name parameters

end

variable {t : DeclarationTable} {declarations : List Declaration} {present : Name → Name}
  {method : String} {seen : List Name.Key} {name : Name} {parameters : List String}

theorem inherits_of_searchParameters {steps : Nat}
    (hsearch : t.searchParameters declarations present method steps seen name = some parameters) :
    Inherits t declarations present method seen name parameters := by
  induction steps generalizing seen name with
  | zero => simp [searchParameters] at hsearch
  | succ steps ih =>
      -- One split for each question of a round: met before, declared, defined here, extended.
      simp only [searchParameters] at hsearch
      split at hsearch
      case isTrue => cases hsearch
      case isFalse hfresh =>
        split at hsearch
        case h_1 => cases hsearch
        case h_2 d hfound =>
          obtain ⟨id, hid, hd⟩ := Option.bind_eq_some_iff.1 hfound
          split at hsearch
          case h_1 own hown =>
            obtain rfl := Option.some.inj hsearch
            exact .own hfresh hid hd hown
          case h_2 hnone =>
            split at hsearch
            case h_1 => cases hsearch
            case h_2 parent hparent => exact .parent hfresh hid hd hnone hparent (ih hsearch)

theorem key_mem_of_find? {key : Name.Key} {id : DeclarationId} (hfind : t.find? key = some id) :
    key ∈ t.byName.map Prod.fst := by
  rw [find?_eq] at hfind
  obtain ⟨e, he, -⟩ := Option.map_eq_some_iff.1 hfind
  rw [← Keyed.find?_some_key he]
  exact List.mem_map_of_mem (Keyed.find?_some_mem he)

/-- The keys met on the way are different keys of the table, so the steps left are always more than
the keys still to be met. -/
theorem Inherits.searchParameters (hinherits : Inherits t declarations present method seen name
    parameters) (hnodup : seen.Nodup) (hknown : seen ⊆ t.byName.map Prod.fst) {steps : Nat}
    (hsteps : t.size < steps + seen.length) :
    t.searchParameters declarations present method steps seen name = some parameters := by
  induction hinherits generalizing steps with
  | @own seen name id d parameters hfresh hid hd hown =>
      obtain ⟨steps, rfl⟩ : ∃ n, steps = n + 1 := by
        have hlength : seen.length ≤ t.size := by
          simpa [size] using hnodup.length_le_of_subset hknown
        exact Nat.exists_eq_add_of_le' (by omega)
      simp [DeclarationTable.searchParameters, hfresh, hid, hd, hown]
  | @parent seen name parent id d parameters hfresh hid hd hnone hparent _ ih =>
      have hnodup' : ((present name).key :: seen).Nodup := List.nodup_cons.2 ⟨hfresh, hnodup⟩
      have hknown' : (present name).key :: seen ⊆ t.byName.map Prod.fst :=
        List.cons_subset.2 ⟨key_mem_of_find? hid, hknown⟩
      have hlength : seen.length + 1 ≤ t.size := by
        simpa [size] using hnodup'.length_le_of_subset hknown'
      obtain ⟨steps, rfl⟩ : ∃ n, steps = n + 1 := Nat.exists_eq_add_of_le' (by omega)
      have hsteps' : t.size < steps + ((present name).key :: seen).length := by
        rw [List.length_cons]
        omega
      have hlater := ih hnodup' hknown' hsteps'
      simp [DeclarationTable.searchParameters, hfresh, hid, hd, hnone, hparent, hlater]

theorem parameters_eq_some_iff {registry : Option Registry} :
    t.parameters declarations registry name method = some parameters ↔
      Inherits t declarations (fun n => (registry.map (·.resolve n)).getD n)
        (Text.lowercase method) [] name parameters := by
  constructor
  · exact inherits_of_searchParameters
  · intro hinherits
    exact hinherits.searchParameters List.nodup_nil (List.nil_subset _) (by simp)

end Rechristen.DeclarationTable
