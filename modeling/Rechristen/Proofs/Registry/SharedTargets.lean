import Rechristen.Proofs.Registry.Commuting
import Rechristen.Proofs.Registry.Spaces

/-!
# Names that share a target

Names that lead to one target are the names a class went through: registering `B → C` after `A → B`
makes `A` and `B` share the target `C`.  A rename whose new name is the target of another class is
refused, and this keeps the classes apart, but for one gap.  A name that was given up can be taken
by another class, and then the registry has both `A → B` and `X → A`.  Registering `A → B` once more
is accepted, since no name but `A` leads to `B`, and redirects `X` to `B` as well (`Reclaims`).

* `targets_apart` says that two targets become one in this way only, and that names share a target
  only if one of them was the name of the other's class when that was renamed.
* `register_again` says when a rename that is in the registry is accepted again, and when this
  leaves all names as they are.
-/

namespace Rechristen

namespace Registry

variable {r : Registry} {old new x y : Name}

/-- A name was renamed and is called `target` now. -/
def LeadsTo (r : Registry) (name target : Name) : Prop :=
  ∃ present, r.lookup name = some present ∧ present.key = target.key

/-- A rename that is in the registry is accepted again, although `x` leads to its old name `y` by
now. -/
structure Reclaims (r : Registry) (old new x y : Name) : Prop where
  accepted : (r.register old new).accepted = true
  recorded : r.LeadsTo old new
  given_up : y.key = old.key
  taken : r.LeadsTo x old

theorem leadsTo_iff {present target : Name} (hlookup : r.lookup x = some present) :
    r.LeadsTo x target ↔ present.key = target.key := by
  constructor
  · rintro ⟨other, hother, hkey⟩
    obtain rfl := Option.some.inj (hlookup.symm.trans hother)
    exact hkey
  · intro hkey
    exact ⟨present, hlookup, hkey⟩

theorem LeadsTo.congr {target : Name} (hleads : r.LeadsTo x target) (hkey : x.key = y.key) :
    r.LeadsTo y target := by
  obtain ⟨present, hlookup, htarget⟩ := hleads
  refine ⟨present, ?_, htarget⟩
  rw [lookup, ← hkey]
  exact hlookup

namespace WellFormed

/-! ## One call -/

/-- The old name of an accepted rename has no entry, or leads to the new name already. -/
theorem old_of_accepted (hr : r.WellFormed) (hdiffer : old.key ≠ new.key)
    (haccepted : (r.register old new).accepted = true) :
    r.lookup old = none ∨ r.LeadsTo old new := by
  obtain ⟨hleads, -⟩ := ((hr.accepted_register_iff old new).1 haccepted).resolve_left hdiffer
  cases hfind : r.find? old.key with
  | none => exact Or.inl (lookup_eq_none_iff.2 hfind)
  | some e => exact Or.inr ⟨e.new, lookup_of_find? hfind, hleads e hfind⟩

/-- No name but the old one leads to the new name of an accepted rename. -/
theorem key_eq_old (hr : r.WellFormed) (hdiffer : old.key ≠ new.key)
    (haccepted : (r.register old new).accepted = true) (hleads : r.LeadsTo x new) :
    x.key = old.key := by
  obtain ⟨-, hfree⟩ := ((hr.accepted_register_iff old new).1 haccepted).resolve_left hdiffer
  obtain ⟨present, hlookup, hkey⟩ := hleads
  obtain ⟨e, hfind, rfl⟩ := Option.map_eq_some_iff.1 hlookup
  exact hfree x.key e hfind hkey

/-- Where the entry of a name leads after an accepted rename. -/
theorem key_after_register (hr : r.WellFormed) (haccepted : (r.register old new).accepted = true)
    {before after : Name} (hbefore : r.lookup x = some before)
    (hafter : (r.register old new).registry.lookup x = some after) :
    after.key = if before.key = old.key then new.key else before.key := by
  rw [key_of_lookup hafter, key_of_lookup hbefore]
  exact hr.present_register_of_accepted haccepted x.key

/-- A rename that takes one target to another one that is there already is reclaimed. -/
theorem reclaims_of_taken (hr : r.WellFormed) (hdiffer : old.key ≠ new.key)
    (haccepted : (r.register old new).accepted = true) (hx : r.LeadsTo x old)
    (hy : r.LeadsTo y new) : r.Reclaims old new x y := by
  have hgiven : y.key = old.key := hr.key_eq_old hdiffer haccepted hy
  exact ⟨haccepted, hy.congr hgiven, hgiven, hx⟩

/-- Reclaiming a rename takes both names to its new name: one is redirected, the other one leads
there already. -/
theorem keys_after_reclaims (hr : r.WellFormed) (hreclaims : r.Reclaims old new x y)
    {tx ty tx' ty' : Name} (hx : r.lookup x = some tx) (hy : r.lookup y = some ty)
    (hx' : (r.register old new).registry.lookup x = some tx')
    (hy' : (r.register old new).registry.lookup y = some ty') :
    tx'.key = new.key ∧ ty'.key = new.key := by
  have htx : tx.key = old.key := (leadsTo_iff hx).1 hreclaims.taken
  have hty : ty.key = new.key :=
    (leadsTo_iff hy).1 (hreclaims.recorded.congr hreclaims.given_up.symm)
  constructor
  · rw [hr.key_after_register hreclaims.accepted hx hx', if_pos htx]
  · rw [hr.key_after_register hreclaims.accepted hy hy', hty, ite_self]

/-- Two targets become one if and only if a rename is reclaimed between their names. -/
theorem merged_iff (hr : r.WellFormed) {tx ty tx' ty' : Name} (hx : r.lookup x = some tx)
    (hy : r.lookup y = some ty) (hapart : tx.key ≠ ty.key)
    (hx' : (r.register old new).registry.lookup x = some tx')
    (hy' : (r.register old new).registry.lookup y = some ty') :
    tx'.key = ty'.key ↔ r.Reclaims old new x y ∨ r.Reclaims old new y x := by
  constructor
  · intro hmerged
    have hchanged : (r.register old new).registry ≠ r := by
      intro hkept
      rw [hkept] at hx' hy'
      obtain rfl := Option.some.inj (hx.symm.trans hx')
      obtain rfl := Option.some.inj (hy.symm.trans hy')
      exact hapart hmerged
    rcases register_cases r old new with ⟨-, -, hkept⟩ | ⟨-, -, hkept⟩ | ⟨hdiffer, haccepted, -⟩
    · exact absurd hkept hchanged
    · exact absurd hkept hchanged
    rw [hr.key_after_register haccepted hx hx', hr.key_after_register haccepted hy hy'] at hmerged
    -- One of the targets was the old name, and the other one was the new name already.
    by_cases htx : tx.key = old.key
    · have hty : ty.key ≠ old.key := fun hty => hapart (htx.trans hty.symm)
      rw [if_pos htx, if_neg hty] at hmerged
      exact Or.inl (hr.reclaims_of_taken hdiffer haccepted ((leadsTo_iff hx).2 htx)
        ((leadsTo_iff hy).2 hmerged.symm))
    · rw [if_neg htx] at hmerged
      by_cases hty : ty.key = old.key
      · rw [if_pos hty] at hmerged
        exact Or.inr (hr.reclaims_of_taken hdiffer haccepted ((leadsTo_iff hy).2 hty)
          ((leadsTo_iff hx).2 hmerged))
      · rw [if_neg hty] at hmerged
        exact absurd hmerged hapart
  · rintro (hreclaims | hreclaims)
    · obtain ⟨htx, hty⟩ := hr.keys_after_reclaims hreclaims hx hy hx' hy'
      exact htx.trans hty.symm
    · obtain ⟨hty, htx⟩ := hr.keys_after_reclaims hreclaims hy hx hy' hx'
      exact htx.trans hty.symm

/-- A name that has an entry after an accepted rename is its old name, or had an entry before. -/
theorem lookup_before (hr : r.WellFormed) (hdiffer : old.key ≠ new.key)
    (haccepted : (r.register old new).accepted = true) {after : Name}
    (hafter : (r.register old new).registry.lookup x = some after) (hother : x.key ≠ old.key) :
    ∃ before, r.lookup x = some before := by
  obtain ⟨f, hfind, -⟩ := Option.map_eq_some_iff.1 hafter
  rw [hr.find?_register haccepted, entriesAfter, if_neg (by simpa using hdiffer),
    if_neg (by simpa using hother)] at hfind
  obtain ⟨e, he, -⟩ := Option.bind_eq_some_iff.1 hfind
  exact ⟨e.new, lookup_of_find? he⟩

/-- A name that shares the target of the old name after an accepted rename led to the old name. -/
theorem leadsTo_old_of_shared (hr : r.WellFormed) (hdiffer : old.key ≠ new.key)
    (haccepted : (r.register old new).accepted = true) {tx ty : Name} (hold : x.key = old.key)
    (hx : (r.register old new).registry.lookup x = some tx)
    (hy : (r.register old new).registry.lookup y = some ty) (hother : y.key ≠ old.key)
    (hshared : tx.key = ty.key) : r.LeadsTo y old := by
  obtain ⟨before, hbefore⟩ := hr.lookup_before hdiffer haccepted hy hother
  have hnew : tx.key = new.key := by
    obtain ⟨f, hfind, rfl⟩ := Option.map_eq_some_iff.1 hx
    rw [hr.find?_register haccepted, entriesAfter, if_neg (by simpa using hdiffer),
      if_pos (by simpa using hold)] at hfind
    obtain rfl := Option.some.inj hfind
    exact Renaming.key_new_normal _
  have hkey := hr.key_after_register haccepted hbefore hy
  rw [← hshared, hnew] at hkey
  by_contra hnot
  rw [leadsTo_iff hbefore] at hnot
  rw [if_neg hnot] at hkey
  exact hother (hr.key_eq_old hdiffer haccepted ((leadsTo_iff hbefore).2 hkey.symm))

end WellFormed

/-! ## Any number of calls -/

theorem registerAll_append (calls : List Renaming) (call : Renaming) :
    r.registerAll (calls ++ [call]) =
      ((r.registerAll calls).register call.old call.new).registry := by
  rw [registerAll, registerAll, List.foldl_append, List.foldl_cons, List.foldl_nil]

/-- `x` was called `y` when one of the calls gave the class of that name another one.  The name `y`
had no entry then, unless the call repeated a rename that was in the registry. -/
def Successive (calls : List Renaming) (x y : Name) : Prop :=
  ∃ earlier call later, calls = earlier ++ call :: later ∧
    (registerAll {} earlier).LeadsTo x y ∧ call.old.key = y.key ∧ call.new.key ≠ y.key ∧
    ((registerAll {} earlier).register call.old call.new).accepted = true ∧
    ((registerAll {} earlier).lookup y = none ∨ (registerAll {} earlier).LeadsTo y call.new)

theorem Successive.append {calls : List Renaming} (hsuccessive : Successive calls x y)
    (call : Renaming) : Successive (calls ++ [call]) x y := by
  obtain ⟨earlier, step, later, rfl, hstep⟩ := hsuccessive
  exact ⟨earlier, step, later ++ [call], by simp, hstep⟩

/-- The last call makes its old name follow the names that led to it. -/
theorem successive_append {calls : List Renaming} {call : Renaming}
    (hleads : (registerAll {} calls).LeadsTo x call.old) (hkey : y.key = call.old.key)
    (hdiffer : call.old.key ≠ call.new.key)
    (haccepted : ((registerAll {} calls).register call.old call.new).accepted = true) :
    Successive (calls ++ [call]) x y := by
  have hformed : (registerAll {} calls).WellFormed := WellFormed.empty.registerAll calls
  have hold := hformed.old_of_accepted hdiffer haccepted
  obtain ⟨present, hlookup, hpresent⟩ := hleads
  refine ⟨calls, call, [], rfl, ⟨present, hlookup, hpresent.trans hkey.symm⟩, hkey.symm, ?_,
    haccepted, hold.imp (fun hnone => ?_) fun hrecorded => hrecorded.congr hkey.symm⟩
  · rw [hkey]
    exact hdiffer.symm
  · rw [lookup, hkey]
    exact hnone

/-- Names that share a target are names of one class. -/
theorem successive_of_shared (calls : List Renaming) {x y tx ty : Name} (hother : x.key ≠ y.key)
    (hx : (registerAll {} calls).lookup x = some tx)
    (hy : (registerAll {} calls).lookup y = some ty) (hshared : tx.key = ty.key) :
    Successive calls x y ∨ Successive calls y x := by
  -- The calls are taken away from the end, so that what is known of the registry before the last
  -- one is known of a registry that starts empty.
  induction calls using List.reverseRecOn generalizing tx ty with
  | nil => cases hx
  | append_singleton calls call ih =>
      have hr : (registerAll {} calls).WellFormed := WellFormed.empty.registerAll calls
      rw [registerAll_append] at hx hy
      have hkept : ((registerAll {} calls).register call.old call.new).registry =
          registerAll {} calls →
          Successive (calls ++ [call]) x y ∨ Successive (calls ++ [call]) y x := by
        intro hkept
        rw [hkept] at hx hy
        exact (ih hx hy hshared).imp (·.append call) (·.append call)
      rcases register_cases (registerAll {} calls) call.old call.new with ⟨-, -, hsame⟩ |
        ⟨-, -, hsame⟩ | ⟨hdiffer, haccepted, -⟩
      · exact hkept hsame
      · exact hkept hsame
      by_cases hxold : x.key = call.old.key
      · have hyold : y.key ≠ call.old.key := fun hyold => hother (hxold.trans hyold.symm)
        have hleads := hr.leadsTo_old_of_shared hdiffer haccepted hxold hx hy hyold hshared
        exact Or.inr (successive_append hleads hxold hdiffer haccepted)
      by_cases hyold : y.key = call.old.key
      · have hleads := hr.leadsTo_old_of_shared hdiffer haccepted hyold hy hx hxold hshared.symm
        exact Or.inl (successive_append hleads hyold hdiffer haccepted)
      -- Both entries were there before, and a call between other names does not merge them.
      obtain ⟨xBefore, hxBefore⟩ := hr.lookup_before hdiffer haccepted hx hxold
      obtain ⟨yBefore, hyBefore⟩ := hr.lookup_before hdiffer haccepted hy hyold
      have hsame : xBefore.key = yBefore.key := by
        by_contra hapart
        rcases (hr.merged_iff hxBefore hyBefore hapart hx hy).1 hshared with hreclaims | hreclaims
        · exact hyold hreclaims.given_up
        · exact hxold hreclaims.given_up
      exact (ih hxBefore hyBefore hsame).imp (·.append call) (·.append call)

/-- **Targets stay apart.**  Take any registry that calls have led to.  First, if two names with
entries have different targets and both have an entry after one more call, then their targets are
still different, unless the call reclaims a rename between them; then they are the same.  Second,
two names share a target only if one of them was the name of the other's class when that was
renamed. -/
theorem targets_apart (calls : List Renaming) :
    (∀ old new x y tx ty tx' ty' : Name,
      (registerAll {} calls).lookup x = some tx → (registerAll {} calls).lookup y = some ty →
      tx.key ≠ ty.key →
      ((registerAll {} calls).register old new).registry.lookup x = some tx' →
      ((registerAll {} calls).register old new).registry.lookup y = some ty' →
      (tx'.key = ty'.key ↔
        (registerAll {} calls).Reclaims old new x y ∨
          (registerAll {} calls).Reclaims old new y x)) ∧
    ∀ x y tx ty : Name, x.key ≠ y.key → (registerAll {} calls).lookup x = some tx →
      (registerAll {} calls).lookup y = some ty → tx.key = ty.key →
      Successive calls x y ∨ Successive calls y x := by
  refine ⟨fun old new x y tx ty tx' ty' hx hy hapart hx' hy' => ?_,
    fun x y tx ty hother hx hy hshared => successive_of_shared calls hother hx hy hshared⟩
  exact (WellFormed.empty.registerAll calls).merged_iff hx hy hapart hx' hy'

/-- A class gives up its name, and another class takes it. -/
def takenOver : List Renaming :=
  [⟨"App\\A", "App\\B"⟩, ⟨"App\\X", "App\\A"⟩]

/-- Here the first rename is registered once more, and two classes come to share a target.  In a
round trip two names share one because the class had both. -/
theorem targets_apart_takenOver :
    ((registerAll {} takenOver).lookup "App\\X" = some "App\\A" ∧
      (registerAll {} takenOver).lookup "App\\A" = some "App\\B" ∧
      Name.key "App\\A" ≠ Name.key "App\\B" ∧
      ((registerAll {} takenOver).register "App\\A" "App\\B").registry.lookup "App\\X" =
        some "App\\B" ∧
      ((registerAll {} takenOver).register "App\\A" "App\\B").registry.lookup "App\\A" =
        some "App\\B" ∧
      ((registerAll {} takenOver).Reclaims "App\\A" "App\\B" "App\\X" "App\\A" ∨
        (registerAll {} takenOver).Reclaims "App\\A" "App\\B" "App\\A" "App\\X")) ∧
    (Name.key "App\\B" ≠ Name.key "App\\C" ∧
      (registerAll {} roundTrip).lookup "App\\B" = some "App\\A" ∧
      (registerAll {} roundTrip).lookup "App\\C" = some "App\\A" ∧
      (Successive roundTrip "App\\B" "App\\C" ∨ Successive roundTrip "App\\C" "App\\B")) := by
  have hx : (registerAll {} takenOver).lookup "App\\X" = some "App\\A" := by decide +kernel
  have hy : (registerAll {} takenOver).lookup "App\\A" = some "App\\B" := by decide +kernel
  have hapart : Name.key "App\\A" ≠ Name.key "App\\B" := by decide +kernel
  have hx' : ((registerAll {} takenOver).register "App\\A" "App\\B").registry.lookup "App\\X" =
      some "App\\B" := by decide +kernel
  have hy' : ((registerAll {} takenOver).register "App\\A" "App\\B").registry.lookup "App\\A" =
      some "App\\B" := by decide +kernel
  have hreclaims := ((targets_apart takenOver).1 _ _ _ _ _ _ _ _ hx hy hapart hx' hy').1 rfl
  have hother : Name.key "App\\B" ≠ Name.key "App\\C" := by decide +kernel
  have hb : (registerAll {} roundTrip).lookup "App\\B" = some "App\\A" := by decide +kernel
  have hc : (registerAll {} roundTrip).lookup "App\\C" = some "App\\A" := by decide +kernel
  exact ⟨⟨hx, hy, hapart, hx', hy', hreclaims⟩, hother, hb, hc,
    (targets_apart roundTrip).2 _ _ _ _ hother hb hc rfl⟩

/-! ## A rename that is in the registry already -/

theorem isTarget_eq_false_iff {name : Name} :
    r.isTarget name = false ↔ ∀ e ∈ r.entries, e.new.key ≠ name.key := by
  simp [isTarget]

/-- A rename in the registry is accepted again if and only if no other name shares its target. -/
theorem WellFormed.accepted_again_iff (hr : r.WellFormed) {e : Renaming} (he : e ∈ r.entries) :
    (r.register e.old e.new).accepted = true ↔
      ∀ f ∈ r.entries, f.new.key = e.new.key → f = e := by
  have hfind : r.find? e.old.key = some e := hr.mem_iff.1 he
  rw [hr.accepted_register_iff, or_iff_right (hr.moved e he)]
  constructor
  · rintro ⟨-, hfree⟩ f hf hnew
    have hkey : f.old.key = e.old.key := hfree f.old.key f (hr.mem_iff.1 hf) hnew
    rw [hr.mem_iff, hkey, hfind] at hf
    exact (Option.some.inj hf).symm
  · intro halone
    constructor
    · intro f hf
      obtain rfl := Option.some.inj (hfind.symm.trans hf)
      rfl
    · intro key f hf hnew
      rw [← find?_key hf, halone f (find?_mem hf) hnew]

/-- Where no name leads to the old name of an entry, registering the entry again changes nothing. -/
theorem WellFormed.lookup_again (hr : r.WellFormed) {e : Renaming} (he : e ∈ r.entries)
    (hnormal : e.new.normalize = e.new) (haccepted : (r.register e.old e.new).accepted = true)
    (hfree : r.isTarget e.old = false) (name : Name) :
    (r.register e.old e.new).registry.lookup name = r.lookup name := by
  rw [lookup, lookup, hr.find?_register haccepted, entriesAfter,
    if_neg (by simpa using hr.moved e he)]
  by_cases hkey : name.key = e.old.key
  · rw [if_pos (by simpa using hkey), hkey, hr.mem_iff.1 he, Option.map_some, Option.map_some]
    exact congrArg some hnormal
  · rw [if_neg (by simpa using hkey)]
    cases hfind : r.find? name.key with
    | none => rfl
    | some f =>
        have hother : f.new.key ≠ (Renaming.normal ⟨e.old, e.new⟩).old.key := by
          rw [Renaming.key_old_normal]
          exact isTarget_eq_false_iff.1 hfree f (find?_mem hfind)
        rw [Option.bind_some, advance_of_ne hother]

/-- **Registering again.**  Take any registry that calls have led to, and any of its entries.  The
entry is accepted again if and only if no other name shares its target.  All names then lead where
they led before if and only if none of them leads to the old name of the entry; they always do if
the entry is refused. -/
theorem register_again (calls : List Renaming) {e : Renaming}
    (he : e ∈ (registerAll {} calls).entries) :
    (((registerAll {} calls).register e.old e.new).accepted = true ↔
      ∀ f ∈ (registerAll {} calls).entries, f.new.key = e.new.key → f = e) ∧
    ((∀ name, ((registerAll {} calls).register e.old e.new).registry.lookup name =
        (registerAll {} calls).lookup name) ↔
      (((registerAll {} calls).register e.old e.new).accepted = true →
        (registerAll {} calls).isTarget e.old = false)) := by
  have hr : (registerAll {} calls).WellFormed := WellFormed.empty.registerAll calls
  have hnormal : e.new.normalize = e.new := normal_registerAll (by simp) calls e he
  refine ⟨hr.accepted_again_iff he, fun hsame haccepted => ?_, fun hfree name => ?_⟩
  · -- An entry that leads to the old name is redirected, so it would not lead there any more.
    rw [isTarget_eq_false_iff]
    intro f hf hled
    have hbefore : (registerAll {} calls).lookup f.old = some f.new :=
      lookup_of_find? (hr.mem_iff.1 hf)
    have hkey := hr.key_after_register haccepted hbefore ((hsame f.old).trans hbefore)
    rw [if_pos hled] at hkey
    exact hr.moved e he (hled.symm.trans hkey)
  · cases haccepted : ((registerAll {} calls).register e.old e.new).accepted with
    | false => rw [registry_of_refused haccepted]
    | true => exact hr.lookup_again he hnormal haccepted (hfree haccepted) name

/-- Two renames of one class, and a rename of another one. -/
def twoSteps : List Renaming :=
  [⟨"App\\A", "App\\B"⟩, ⟨"App\\B", "App\\C"⟩, ⟨"App\\D", "App\\E"⟩]

/-- The class with two renames has two names with one target, and its first rename is refused when
it is registered again.  The rename of the other class is accepted and changes nothing.  A rename
whose old name was taken over is accepted too, but changes something. -/
theorem register_again_twoSteps :
    ((⟨"App\\A", "App\\C"⟩ : Renaming) ∈ (registerAll {} twoSteps).entries ∧
      ((registerAll {} twoSteps).register "App\\A" "App\\C").accepted ≠ true) ∧
    ((⟨"App\\D", "App\\E"⟩ : Renaming) ∈ (registerAll {} twoSteps).entries ∧
      ((registerAll {} twoSteps).register "App\\D" "App\\E").accepted = true ∧
      ∀ name, ((registerAll {} twoSteps).register "App\\D" "App\\E").registry.lookup name =
        (registerAll {} twoSteps).lookup name) ∧
    ((⟨"App\\A", "App\\B"⟩ : Renaming) ∈ (registerAll {} takenOver).entries ∧
      ¬ ∀ name, ((registerAll {} takenOver).register "App\\A" "App\\B").registry.lookup name =
        (registerAll {} takenOver).lookup name) := by
  have hshared : (⟨"App\\A", "App\\C"⟩ : Renaming) ∈ (registerAll {} twoSteps).entries := by
    decide +kernel
  have halone : (⟨"App\\D", "App\\E"⟩ : Renaming) ∈ (registerAll {} twoSteps).entries := by
    decide +kernel
  have htaken : (⟨"App\\A", "App\\B"⟩ : Renaming) ∈ (registerAll {} takenOver).entries := by
    decide +kernel
  refine ⟨⟨hshared, fun haccepted => ?_⟩, ⟨halone, (register_again twoSteps halone).1.2 ?_,
    (register_again twoSteps halone).2.2 fun _ => ?_⟩, htaken, fun hsame => ?_⟩
  · exact absurd ((register_again twoSteps hshared).1.1 haccepted) (by decide +kernel)
  · decide +kernel
  · decide +kernel
  · exact absurd ((register_again takenOver htaken).2.1 hsame) (by decide +kernel)

end Registry

end Rechristen
