import Rechristen.Proofs.Keyed
import Rechristen.Proofs.Name.Key
import Rechristen.Registry

/-!
# The registry replays the renames it accepted

`Registry.present` reads a registry as a map from keys to keys: the key under which a class is
known now.  A name without an entry is still called what it was.  Through this view an accepted
rename `old → new` does one thing, whatever it does to the entries
(`present_register_of_accepted`): what was called `old` is called `new`.

It follows that the registry after any calls says of every name what is found by going through the
accepted renames once, from the first to the last (`present_registerAll`).

The view determines the entries only while no two entries have one key and no entry leads to its
own name.  Both are kept by every call (`WellFormed.register`); the second because an entry that
would come back to its own name is dropped.
-/

namespace Rechristen

namespace Registry

/-- The key under which the class with a key is known now. -/
def present (r : Registry) (key : Name.Key) : Name.Key :=
  ((r.find? key).map fun e => e.new.key).getD key

/-- No two entries have one key, and no entry leads to its own name. -/
structure WellFormed (r : Registry) : Prop where
  keys_nodup : (r.entries.map fun e => e.old.key).Nodup
  moved : ∀ e ∈ r.entries, e.old.key ≠ e.new.key

theorem WellFormed.empty : WellFormed {} :=
  ⟨List.nodup_nil, by simp⟩

/-! ## Looking entries up -/

theorem find?_eq (r : Registry) (key : Name.Key) :
    r.find? key = Keyed.find? (fun e => e.old.key) r.entries key := rfl

theorem find?_key {r : Registry} {key : Name.Key} {e : Renaming} (hfind : r.find? key = some e) :
    e.old.key = key := by
  rw [find?_eq] at hfind
  have hkey := Keyed.find?_some_key hfind
  exact hkey

theorem find?_mem {r : Registry} {key : Name.Key} {e : Renaming} (hfind : r.find? key = some e) :
    e ∈ r.entries :=
  Keyed.find?_some_mem hfind

theorem present_of_find?_none {r : Registry} {key : Name.Key} (hfind : r.find? key = none) :
    r.present key = key := by
  simp [present, hfind]

theorem present_of_find?_some {r : Registry} {key : Name.Key} {e : Renaming}
    (hfind : r.find? key = some e) : r.present key = e.new.key := by
  simp [present, hfind]

/-- An entry leads away from its name, so only a name without an entry is still called the same. -/
theorem WellFormed.present_eq_self_iff {r : Registry} (hr : r.WellFormed) (key : Name.Key) :
    r.present key = key ↔ r.find? key = none := by
  cases hfind : r.find? key with
  | none => simp [present_of_find?_none hfind]
  | some e =>
      have hmoved := hr.moved e (find?_mem hfind)
      rw [find?_key hfind] at hmoved
      simp [present_of_find?_some hfind, Ne.symm hmoved]

theorem lookup_eq_none_iff {r : Registry} {name : Name} :
    r.lookup name = none ↔ r.find? name.key = none := by
  simp [lookup]

theorem lookup_of_find? {r : Registry} {name : Name} {e : Renaming}
    (hfind : r.find? name.key = some e) : r.lookup name = some e.new := by
  rw [lookup, hfind, Option.map_some]

theorem key_of_lookup {r : Registry} {name new : Name} (hlookup : r.lookup name = some new) :
    new.key = r.present name.key := by
  obtain ⟨e, hfind, rfl⟩ := Option.map_eq_some_iff.1 hlookup
  rw [present_of_find?_some hfind]

/-- As long as no entry leads to the empty name, resolving a name gives what it is called now. -/
theorem key_resolve {r : Registry} (hspelled : ∀ e ∈ r.entries, e.new ≠ "") (name : Name) :
    (r.resolve name).key = r.present name.key := by
  unfold resolve
  cases hlookup : r.lookup name with
  | none => rw [Name.key_normalize, present_of_find?_none (lookup_eq_none_iff.1 hlookup)]
  | some new =>
      obtain ⟨e, hfind, rfl⟩ := Option.map_eq_some_iff.1 hlookup
      have hnonempty : e.new.isEmpty = false := by
        simpa using hspelled e (find?_mem hfind)
      simp only [hnonempty, Bool.false_eq_true, if_false]
      exact key_of_lookup hlookup

/-! ## The entries after a rename -/

theorem advance_old {old new : Name} {e f : Renaming} (hadvance : advance old new e = some f) :
    f.old.key = e.old.key := by
  unfold advance at hadvance
  split at hadvance
  · split at hadvance
    · simp at hadvance
    · cases hadvance
      rfl
  · cases hadvance
    rfl

theorem WellFormed.find?_record {r : Registry} (hr : r.WellFormed) (old new : Name)
    (key : Name.Key) :
    (r.record old new).find? key =
      if key = old.key then some ⟨old, new⟩ else (r.find? key).bind (advance old new) := by
  have hadvance : Keyed.find? (fun e => e.old.key) (r.entries.filterMap (advance old new)) key =
      (r.find? key).bind (advance old new) :=
    Keyed.find?_filterMap (fun _ _ hadvance => advance_old hadvance) hr.keys_nodup key
  have hput : (r.record old new).find? key =
      if key = old.key then some ⟨old, new⟩
      else Keyed.find? (fun e => e.old.key) (r.entries.filterMap (advance old new)) key :=
    Keyed.find?_upsert (r.entries.filterMap (advance old new)) ⟨old, new⟩ key
  rw [hput, hadvance]

/-- An entry stays as it is unless it leads to the old name; then it leads to the new one. -/
theorem advance_cases {old new : Name} {e f : Renaming} (hadvance : advance old new e = some f) :
    (f = e ∧ e.new.key ≠ old.key) ∨ (f = { e with new := new } ∧ e.new.key = old.key) := by
  unfold advance at hadvance
  split at hadvance
  case isTrue hled =>
    split at hadvance
    · simp at hadvance
    · cases hadvance
      exact Or.inr ⟨rfl, hled⟩
  case isFalse hother =>
    cases hadvance
    exact Or.inl ⟨rfl, hother⟩

theorem mem_record {r : Registry} {old new : Name} {e : Renaming}
    (he : e ∈ (r.record old new).entries) :
    e = ⟨old, new⟩ ∨ (e ∈ r.entries ∧ e.new.key ≠ old.key) ∨
      ∃ f ∈ r.entries, f.new.key = old.key ∧ e = { f with new := new } := by
  rcases Keyed.mem_upsert he with rfl | ⟨he, -⟩
  · exact Or.inl rfl
  · obtain ⟨f, hf, hadvance⟩ := List.mem_filterMap.1 he
    rcases advance_cases hadvance with ⟨rfl, hother⟩ | ⟨rfl, hled⟩
    · exact Or.inr (Or.inl ⟨hf, hother⟩)
    · exact Or.inr (Or.inr ⟨f, hf, hled, rfl⟩)

theorem advance_moved {old new : Name} {e f : Renaming} (hmoved : e.old.key ≠ e.new.key)
    (hadvance : advance old new e = some f) : f.old.key ≠ f.new.key := by
  unfold advance at hadvance
  split at hadvance
  · split at hadvance
    · simp at hadvance
    · cases hadvance
      assumption
  · cases hadvance
    exact hmoved

theorem WellFormed.record {r : Registry} (hr : r.WellFormed) {old new : Name}
    (hdiffer : old.key ≠ new.key) : (r.record old new).WellFormed where
  keys_nodup := Keyed.nodup_upsert
    (Keyed.nodup_filterMap (fun _ _ hadvance => advance_old hadvance) hr.keys_nodup) _
  moved e he := by
    rcases Keyed.mem_upsert he with rfl | ⟨he, -⟩
    · exact hdiffer
    · obtain ⟨f, hf, hadvance⟩ := List.mem_filterMap.1 he
      exact advance_moved (hr.moved f hf) hadvance

/-- Through the view, recording `old → new` calls `new` what was called `old`.  The old name must
not lead elsewhere: its entry is overwritten. -/
theorem WellFormed.present_record {r : Registry} (hr : r.WellFormed) {old new : Name}
    (hfree : r.present old.key = old.key ∨ r.present old.key = new.key) (key : Name.Key) :
    (r.record old new).present key =
      if r.present key = old.key then new.key else r.present key := by
  have hfind := hr.find?_record old new key
  by_cases hkey : key = old.key
  · subst hkey
    rw [if_pos rfl] at hfind
    rw [present_of_find?_some hfind]
    rcases hfree with hfree | hfree <;> simp [hfree]
  · rw [if_neg hkey] at hfind
    cases hold : r.find? key with
    | none =>
        rw [hold] at hfind
        rw [present_of_find?_none hfind, present_of_find?_none hold, if_neg hkey]
    | some e =>
        rw [hold, Option.bind_some] at hfind
        rw [present_of_find?_some hold]
        by_cases hled : e.new.key = old.key
        · rw [if_pos hled]
          -- An entry that would lead back to its own name is dropped, and a name without an entry
          -- is called what it was: the new name in either case.
          by_cases hback : e.old.key = new.key
          · have hdropped : (r.record old new).find? key = none := by
              rw [hfind]
              simp [advance, hled, hback]
            rw [present_of_find?_none hdropped, ← find?_key hold, hback]
          · have hchanged : (r.record old new).find? key = some { e with new := new } := by
              rw [hfind]
              simp [advance, hled, hback]
            rw [present_of_find?_some hchanged]
        · have hkept : (r.record old new).find? key = some e := by
            rw [hfind]
            simp [advance, hled]
          rw [present_of_find?_some hkept, if_neg hled]

/-! ## One call -/

/-- What a call can come to: the names have one key, the rename is refused, or it is recorded.  It
is recorded only if the old name leads nowhere else. -/
theorem register_cases (r : Registry) (old new : Name) :
    (old.key = new.key ∧ (r.register old new).accepted = true ∧
      (r.register old new).registry = r) ∨
    (old.key ≠ new.key ∧ (r.register old new).accepted = false ∧
      (r.register old new).registry = r) ∨
    (old.key ≠ new.key ∧ (r.register old new).accepted = true ∧
      (r.present old.key = old.key ∨ r.present old.key = new.key) ∧
      (r.register old new).registry = r.record old.normalize new.normalize) := by
  by_cases hsame : old.key = new.key
  · refine Or.inl ⟨hsame, ?_⟩
    simp [register, judge, hsame, Verdict.accepted, Verdict.registry]
  · refine Or.inr ?_
    simp only [register, judge, Name.key_normalize, if_neg hsame]
    cases hleads : (r.find? old.key).filter fun e => decide (e.new.key ≠ new.key) with
    | some e => exact Or.inl ⟨hsame, rfl, rfl⟩
    | none =>
        -- Nothing was filtered out, so an entry of the old name leads to the new one already.
        have hfree : r.present old.key = old.key ∨ r.present old.key = new.key := by
          cases hfind : r.find? old.key with
          | none => exact Or.inl (present_of_find?_none hfind)
          | some e =>
              right
              rw [present_of_find?_some hfind]
              simpa [hfind, Option.filter_some] using hleads
        dsimp only
        cases htaken : r.entries.find? fun e =>
            decide (e.old.key ≠ old.key) && decide (e.new.key = new.key) with
        | some e => exact Or.inl ⟨hsame, rfl, rfl⟩
        | none => exact Or.inr ⟨hsame, rfl, hfree, rfl⟩

theorem WellFormed.register {r : Registry} (hr : r.WellFormed) (old new : Name) :
    (r.register old new).registry.WellFormed := by
  rcases register_cases r old new with ⟨-, -, hkept⟩ | ⟨-, -, hkept⟩ | ⟨hdiffer, -, -, hrecorded⟩
  · rwa [hkept]
  · rwa [hkept]
  · rw [hrecorded]
    exact hr.record (by simpa using hdiffer)

/-- An accepted rename calls `new` what was called `old`. -/
theorem WellFormed.present_register_of_accepted {r : Registry} (hr : r.WellFormed) {old new : Name}
    (haccepted : (r.register old new).accepted = true) (key : Name.Key) :
    (r.register old new).registry.present key =
      if r.present key = old.key then new.key else r.present key := by
  rcases register_cases r old new with ⟨hsame, -, hkept⟩ | ⟨-, hrefused, -⟩ |
    ⟨-, -, hfree, hrecorded⟩
  · rw [hkept]
    split
    case isTrue hold => rw [hold, hsame]
    case isFalse => rfl
  · simp [hrefused] at haccepted
  · rw [hrecorded]
    have hrecord := @WellFormed.present_record r hr old.normalize new.normalize
      (by simpa using hfree) key
    simpa using hrecord

/-- The entries after an accepted rename: the one it made, those that led to its old name and now
lead to its new one, and those it left alone.  The last do not lead to the old name, unless that is
the new one. -/
theorem mem_register_of_accepted {r : Registry} {old new : Name} {e : Renaming}
    (haccepted : (r.register old new).accepted = true)
    (he : e ∈ (r.register old new).registry.entries) :
    e = ⟨old.normalize, new.normalize⟩ ∨
      (e ∈ r.entries ∧ (e.new.key = old.key → old.key = new.key)) ∨
      ∃ f ∈ r.entries, f.new.key = old.key ∧ e = { f with new := new.normalize } := by
  rcases register_cases r old new with ⟨hsame, -, hkept⟩ | ⟨-, hrefused, -⟩ | ⟨-, -, -, hrecorded⟩
  · rw [hkept] at he
    exact Or.inr (Or.inl ⟨he, fun _ => hsame⟩)
  · simp [hrefused] at haccepted
  · rw [hrecorded] at he
    rcases mem_record he with hmade | ⟨he, hother⟩ | ⟨f, hf, hled, rfl⟩
    · exact Or.inl hmade
    · rw [Name.key_normalize] at hother
      exact Or.inr (Or.inl ⟨he, fun hled => absurd hled hother⟩)
    · exact Or.inr (Or.inr ⟨f, hf, by rwa [Name.key_normalize] at hled, rfl⟩)

theorem registry_of_refused {r : Registry} {old new : Name}
    (hrefused : (r.register old new).accepted = false) :
    (r.register old new).registry = r := by
  rcases register_cases r old new with ⟨-, haccepted, -⟩ | ⟨-, -, hkept⟩ | ⟨-, haccepted, -⟩
  · simp [haccepted] at hrefused
  · exact hkept
  · simp [haccepted] at hrefused

/-- A rename is refused if the old name leads elsewhere or another name leads to the new one. -/
theorem refused_register_iff (r : Registry) (old new : Name) :
    (r.register old new).accepted = false ↔ old.key ≠ new.key ∧
      ((∃ target, r.lookup old = some target ∧ target.key ≠ new.key) ∨
        ∃ e ∈ r.entries, e.old.key ≠ old.key ∧ e.new.key = new.key) := by
  simp only [register, judge, Name.key_normalize]
  by_cases hsame : old.key = new.key
  · simp [hsame, Verdict.accepted]
  rw [if_neg hsame]
  cases helsewhere : (r.find? old.key).filter fun e => decide (e.new.key ≠ new.key) with
  | some e =>
      obtain ⟨hfind, hother⟩ := Option.filter_eq_some_iff.1 helsewhere
      exact iff_of_true rfl
        ⟨hsame, Or.inl ⟨e.new, lookup_of_find? hfind, of_decide_eq_true hother⟩⟩
  | none =>
      have hleads : ∀ target, r.lookup old = some target → target.key = new.key := by
        intro target hlookup
        obtain ⟨e, hfind, rfl⟩ := Option.map_eq_some_iff.1 hlookup
        simpa [hfind, Option.filter_some] using helsewhere
      dsimp only
      cases htaken : r.entries.find? fun e =>
          decide (e.old.key ≠ old.key) && decide (e.new.key = new.key) with
      | some e =>
          have hmatch := List.find?_some htaken
          simp only [ne_eq, Bool.and_eq_true, decide_eq_true_eq] at hmatch
          exact iff_of_true rfl ⟨hsame, Or.inr ⟨e, List.mem_of_find?_eq_some htaken, hmatch⟩⟩
      | none =>
          refine iff_of_false Bool.false_ne_true.symm ?_
          rintro ⟨-, ⟨target, hlookup, hother⟩ | ⟨e, he, hother, hnew⟩⟩
          · exact hother (hleads target hlookup)
          · exact List.find?_eq_none.1 htaken e he (by simp [hother, hnew])

/-! ## Any number of calls -/

/-- The registry after calls, made one after the other. -/
def registerAll (r : Registry) (calls : List Renaming) : Registry :=
  calls.foldl (fun r call => (r.register call.old call.new).registry) r

/-- The calls that are accepted and rename something, in their order. -/
def acceptedAmong (r : Registry) : List Renaming → List Renaming
  | [] => []
  | call :: rest =>
    let after := r.register call.old call.new
    if after.accepted ∧ call.old.key ≠ call.new.key then
      call :: after.registry.acceptedAmong rest
    else after.registry.acceptedAmong rest

/-- The key a class is known under after renames, each carried out once and in their order. -/
def replay (key : Name.Key) (renames : List Renaming) : Name.Key :=
  renames.foldl (fun current rename =>
    if current = rename.old.key then rename.new.key else current) key

theorem WellFormed.registerAll {r : Registry} (hr : r.WellFormed) (calls : List Renaming) :
    (r.registerAll calls).WellFormed := by
  induction calls generalizing r with
  | nil => exact hr
  | cons call rest ih =>
      simp only [Registry.registerAll, List.foldl_cons] at ih ⊢
      exact ih (hr.register call.old call.new)

/-- The registry after calls is the registry before, followed by a replay of the accepted ones. -/
theorem WellFormed.present_registerAll {r : Registry} (hr : r.WellFormed) (calls : List Renaming)
    (key : Name.Key) :
    (r.registerAll calls).present key = replay (r.present key) (r.acceptedAmong calls) := by
  induction calls generalizing r with
  | nil => rfl
  | cons call rest ih =>
      simp only [Registry.registerAll, List.foldl_cons] at ih ⊢
      rw [ih (hr.register call.old call.new), acceptedAmong]
      cases haccepted : (r.register call.old call.new).accepted with
      | false => rw [if_neg (by simp), registry_of_refused haccepted]
      | true =>
          have hcurrent := hr.present_register_of_accepted haccepted key
          -- A call between two spellings of one name is accepted without being replayed.
          by_cases hsame : call.old.key = call.new.key
          · have hkept : (r.register call.old call.new).registry.present key = r.present key := by
              rw [hcurrent]
              split
              case isTrue hold => rw [hold, hsame]
              case isFalse => rfl
            rw [if_neg (by simp [hsame]), hkept]
          · rw [if_pos (And.intro rfl hsame), hcurrent]
            simp only [replay, List.foldl_cons]

/-- **Replay.**  After any calls on an empty registry, a name is looked up in vain exactly if a
replay of the accepted renames leads back to it, and otherwise the registry gives the name to which
the replay leads.  No entry leads to its own name. -/
theorem lookup_registerAll (calls : List Renaming) :
    (∀ name : Name,
      ((registerAll {} calls).lookup name = none ↔
        replay name.key (acceptedAmong {} calls) = name.key) ∧
      ∀ new, (registerAll {} calls).lookup name = some new →
        new.key = replay name.key (acceptedAmong {} calls)) ∧
    ∀ e ∈ (registerAll {} calls).entries, e.old.key ≠ e.new.key := by
  have hformed : (registerAll {} calls).WellFormed := WellFormed.empty.registerAll calls
  have hreplay : ∀ key, (registerAll {} calls).present key =
      replay key (acceptedAmong {} calls) :=
    WellFormed.empty.present_registerAll calls
  refine ⟨fun name => ⟨?_, fun new hlookup => ?_⟩, hformed.moved⟩
  · rw [lookup_eq_none_iff, ← hformed.present_eq_self_iff, hreplay]
  · rw [key_of_lookup hlookup, hreplay]

/-- A class that goes through two names and comes back, another one that is refused a name on the
way and then takes one that was given up. -/
def roundTrip : List Renaming :=
  [⟨"App\\A", "App\\B"⟩, ⟨"\\app\\b", "App\\C"⟩, ⟨"App\\D", "App\\c"⟩,
    ⟨"App\\C", "App\\A"⟩, ⟨"App\\D", "App\\B"⟩]

theorem lookup_roundTrip :
    ((registerAll {} roundTrip).lookup "App\\A" = none ∧
      replay (Name.key "App\\A") (acceptedAmong {} roundTrip) = Name.key "App\\A") ∧
    ((registerAll {} roundTrip).lookup "APP\\B" = some "App\\A" ∧
      Name.key "App\\A" = replay (Name.key "APP\\B") (acceptedAmong {} roundTrip)) ∧
    (⟨"App\\D", "App\\B"⟩ ∈ (registerAll {} roundTrip).entries ∧
      Name.key "App\\D" ≠ Name.key "App\\B") := by
  have hback : (registerAll {} roundTrip).lookup "App\\A" = none := by decide +kernel
  have hled : (registerAll {} roundTrip).lookup "APP\\B" = some "App\\A" := by decide +kernel
  have hentry : (⟨"App\\D", "App\\B"⟩ : Renaming) ∈ (registerAll {} roundTrip).entries := by
    decide +kernel
  obtain ⟨hlookup, hmoved⟩ := lookup_registerAll roundTrip
  exact ⟨⟨hback, (hlookup "App\\A").1.1 hback⟩, ⟨hled, (hlookup "APP\\B").2 "App\\A" hled⟩,
    hentry, hmoved ⟨"App\\D", "App\\B"⟩ hentry⟩

end Registry

end Rechristen
