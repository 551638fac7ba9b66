import Rechristen.Path

/-!
# The names a path is made of

A path that was read from a text has names without slashes, none of them empty or a single dot
(`IsName`).  Reading a path once more gives it back exactly if it is such a path
(`normal_eq_self_iff`), and giving its file another name, with no slash in it, keeps it one
(`normal_withName`).

The name of a file is its stem followed by its suffix, so a file that gets a new stem before the old
suffix stays where it is exactly if the stem is the one it had (`withName_stem_eq_self_iff`).
-/

namespace Rechristen

namespace Text

variable {c : Char} {cs part : List Char}

theorem not_mem_of_mem_partsOf (hpart : part ∈ partsOf c cs) : c ∉ part := by
  induction cs generalizing part with
  | nil =>
      obtain rfl := List.mem_singleton.1 hpart
      exact List.not_mem_nil
  | cons d rest ih =>
      unfold partsOf at hpart
      split at hpart
      case isTrue =>
        rcases List.mem_cons.1 hpart with rfl | hlater
        · exact List.not_mem_nil
        · exact ih hlater
      case isFalse hd =>
        -- `d` is put in front of the first part; the others are parts of `rest`.
        split at hpart
        case h_1 =>
          obtain rfl := List.mem_singleton.1 hpart
          simpa using Ne.symm hd
        case h_2 first parts hparts =>
          rw [hparts] at ih
          rcases List.mem_cons.1 hpart with rfl | hlater
          · have hfirst := ih List.mem_cons_self
            simp [Ne.symm hd, hfirst]
          · exact ih (List.mem_cons_of_mem first hlater)

theorem partsOf_of_not_mem (hcs : c ∉ cs) : partsOf c cs = [cs] := by
  induction cs with
  | nil => rfl
  | cons d rest ih =>
      rw [List.mem_cons, not_or] at hcs
      rw [partsOf, if_neg (Ne.symm hcs.1), ih hcs.2]

end Text

namespace Path

variable {p q : Path} {name : String}

/-- Read as a path, the text is itself the only name. -/
def IsName (name : String) : Prop :=
  (ofString name).names = [name]

theorem names_of_not_mem (hslash : '/' ∉ name.toList) :
    (ofString name).names = if name ≠ "" ∧ name ≠ "." then [name] else [] := by
  simp only [ofString, Text.splitAt, Text.partsOf_of_not_mem hslash]
  by_cases hempty : name = ""
  · simp [hempty]
  · by_cases hdot : name = "." <;> simp [hempty, hdot]

/-- The names of a path that was read. -/
theorem isName_of_mem {text : String} (hname : name ∈ (ofString text).names) : IsName name := by
  simp only [ofString, Text.splitAt, List.mem_filter, List.mem_map] at hname
  obtain ⟨⟨part, hpart, rfl⟩, hkept⟩ := hname
  have hslash : '/' ∉ (String.ofList part).toList := by
    rw [String.toList_ofList]
    exact Text.not_mem_of_mem_partsOf hpart
  rw [IsName, names_of_not_mem hslash, if_pos (by simpa using hkept)]

theorem IsName.not_mem (hname : IsName name) : '/' ∉ name.toList := by
  have hmem : name ∈ (ofString name).names := by
    rw [hname]
    exact List.mem_singleton_self name
  simp only [ofString, Text.splitAt, List.mem_filter, List.mem_map] at hmem
  obtain ⟨⟨part, hpart, rfl⟩, -⟩ := hmem
  rw [String.toList_ofList]
  exact Text.not_mem_of_mem_partsOf hpart

/-- Reading a path once more changes it unless all its names are names. -/
theorem normal_eq_self_iff : p.normal = p ↔ ∀ name ∈ p.names, IsName name := by
  constructor
  · intro hnormal name hname
    rw [← hnormal] at hname
    obtain ⟨written, -, hread⟩ := List.mem_flatMap.1 hname
    exact isName_of_mem hread
  · intro hnames
    have hread : (p.names.flatMap fun name => (ofString name).names) = p.names := by
      rw [List.flatMap_def, List.map_congr_left hnames, ← List.flatMap_def]
      exact List.flatMap_singleton' p.names
    rw [normal, hread]

/-! ## The name of the file -/

theorem stem_append_suffix (p : Path) : p.stem ++ p.suffix = p.name := by
  unfold stem suffix
  split
  · rw [← String.toList_inj, String.toList_append]
    simp [Text.dropStart]
  · exact String.append_empty

/-- A path that can get another last name has one. -/
theorem withName_ok (hwith : p.withName name = .ok q) :
    isFileName name = true ∧ p.names = p.names.dropLast ++ [p.name] ∧
      q = { p with names := p.names.dropLast ++ [name] } := by
  unfold withName at hwith
  split at hwith
  case isTrue => cases hwith
  case isFalse hnamed =>
    split at hwith
    case isFalse => cases hwith
    case isTrue hfile =>
      refine ⟨hfile, ?_, (Except.ok.inj hwith).symm⟩
      have hne : p.names ≠ [] := by
        intro hnames
        exact hnamed (by rw [Path.name, hnames]; rfl)
      rw [Path.name, List.getLast?_eq_some_getLast hne, Option.getD_some]
      exact (List.dropLast_concat_getLast hne).symm

theorem withName_eq_self_iff (hwith : p.withName name = .ok q) : q = p ↔ name = p.name := by
  obtain ⟨-, hnames, rfl⟩ := withName_ok hwith
  constructor
  · intro hself
    have hsame : p.names.dropLast ++ [name] = p.names.dropLast ++ [p.name] := by
      rw [← hnames]
      exact congrArg Path.names hself
    exact List.singleton_inj.1 (List.append_cancel_left hsame)
  · rintro rfl
    rw [← hnames]

/-- A file stays where it is if its new stem is the one it has. -/
theorem withName_stem_eq_self_iff {stem : String} (hwith : p.withName (stem ++ p.suffix) = .ok q) :
    q = p ↔ stem = p.stem := by
  rw [withName_eq_self_iff hwith, ← stem_append_suffix, ← String.toList_inj, String.toList_append,
    String.toList_append, List.append_left_inj, String.toList_inj]

theorem not_mem_suffix (hp : p.normal = p) : '/' ∉ p.suffix.toList := by
  intro hmem
  have hname : '/' ∈ p.name.toList := by
    rw [← stem_append_suffix, String.toList_append]
    exact List.mem_append_right _ hmem
  unfold Path.name at hname
  cases hlast : p.names.getLast? with
  | none => simp [hlast] at hname
  | some last =>
      rw [hlast, Option.getD_some] at hname
      exact (normal_eq_self_iff.1 hp last (List.mem_of_getLast? hlast)).not_mem hname

theorem normal_withName (hp : p.normal = p) (hslash : '/' ∉ name.toList)
    (hwith : p.withName name = .ok q) : q.normal = q := by
  obtain ⟨hfile, -, rfl⟩ := withName_ok hwith
  rw [normal_eq_self_iff]
  intro n hn
  rcases List.mem_append.1 hn with hbefore | hlast
  · exact normal_eq_self_iff.1 hp n (List.dropLast_subset _ hbefore)
  · obtain rfl := List.mem_singleton.1 hlast
    have hlength : (ofString n).names.length = 1 := by
      simp only [isFileName, Bool.and_eq_true, beq_iff_eq] at hfile
      exact hfile.2
    rw [IsName]
    rw [names_of_not_mem hslash] at hlength ⊢
    split at hlength
    case isTrue hname => rw [if_pos hname]
    case isFalse => cases hlength

end Path

end Rechristen
