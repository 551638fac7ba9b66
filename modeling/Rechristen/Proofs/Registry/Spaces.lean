import Rechristen.Proofs.Name.Segments
import Rechristen.Proofs.Registry.Replay

/-!
# Registries that keep to the namespace

A class that gets another short name stays in its namespace.  If all renames are of this kind, a
name and what the registry tells of it differ in their last segments only, however many renames came
in between.
-/

namespace Rechristen.Registry

/-- The registry leads from a name to one of the same namespace, written without leading
separators. -/
structure Tidy (r : Registry) : Prop where
  stays : ∀ e ∈ r.entries, e.new.space.key = e.old.space.key
  normal : ∀ e ∈ r.entries, e.new.normalize = e.new

theorem Tidy.empty : Tidy {} :=
  ⟨by simp, by simp⟩

namespace Tidy

variable {r : Registry}

/-- A name is looked up in its own namespace. -/
theorem space_of_lookup (hr : r.Tidy) {name target : Name} (hlookup : r.lookup name = some target) :
    target.space.key = name.space.key := by
  obtain ⟨e, hfind, rfl⟩ := Option.map_eq_some_iff.1 hlookup
  rw [hr.stays e (find?_mem hfind)]
  exact (Name.key_eq_iff.1 (find?_key hfind)).1

theorem normal_of_lookup (hr : r.Tidy) {name target : Name}
    (hlookup : r.lookup name = some target) : target.normalize = target := by
  obtain ⟨e, hfind, rfl⟩ := Option.map_eq_some_iff.1 hlookup
  exact hr.normal e (find?_mem hfind)

end Tidy

/-- New names are written without leading separators, whatever is registered. -/
theorem normal_register {r : Registry} (hr : ∀ e ∈ r.entries, e.new.normalize = e.new)
    (old new : Name) : ∀ e ∈ (r.register old new).registry.entries, e.new.normalize = e.new := by
  intro e he
  cases haccepted : (r.register old new).accepted with
  | false =>
      rw [registry_of_refused haccepted] at he
      exact hr e he
  | true =>
      rcases mem_register_of_accepted haccepted he with rfl | ⟨he, -⟩ | ⟨f, -, -, rfl⟩
      · exact Name.normalize_normalize new
      · exact hr e he
      · exact Name.normalize_normalize new

theorem normal_registerAll {r : Registry} (hr : ∀ e ∈ r.entries, e.new.normalize = e.new)
    (calls : List Renaming) : ∀ e ∈ (r.registerAll calls).entries, e.new.normalize = e.new := by
  induction calls generalizing r with
  | nil => exact hr
  | cons call rest ih =>
      simp only [registerAll, List.foldl_cons] at ih ⊢
      exact ih (normal_register hr call.old call.new)

/-- A rename within a namespace keeps the registry to the namespaces. -/
theorem Tidy.register {r : Registry} (hr : r.Tidy) {old new : Name}
    (hspace : new.space.key = old.space.key) : (r.register old new).registry.Tidy where
  stays e he := by
    cases haccepted : (r.register old new).accepted with
    | false =>
        rw [registry_of_refused haccepted] at he
        exact hr.stays e he
    | true =>
        rcases mem_register_of_accepted haccepted he with rfl | ⟨he, -⟩ | ⟨f, hf, hled, rfl⟩
        · simp only [Name.space_normalize]
          exact hspace
        · exact hr.stays e he
        · -- The entry led to the old name, which lies where the new one does.
          have hold : f.new.space.key = old.space.key := (Name.key_eq_iff.1 hled).1
          rw [Name.space_normalize, hspace, ← hold]
          exact hr.stays f hf
  normal := normal_register hr.normal old new

end Rechristen.Registry
