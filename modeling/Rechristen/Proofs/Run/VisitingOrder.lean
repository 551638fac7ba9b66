import Mathlib.Data.List.Pairwise
import Rechristen.Proofs.Run.Visits
import Rechristen.Proofs.Session.ToldApart

/-!
# The order in which declarations are visited

Whether a wish of a policy is granted depends on the session as earlier visits left it, and those
may have given up names, taken them and redirected entries of the registry.  If the wishes have
nothing to do with each other, the order of the visits does not matter nevertheless
(`visitAll_order`): every wish is granted or refused as it would be at the start, and what the
granted ones do to the names, the registry and the plan can be done in any order.
-/

namespace Rechristen

namespace Run

open Session (Alike Renamed)

variable {p : Policy} {r r' : Run} {stop : Stop}

/-! ## All visits -/

/-- The wishes for some declarations that are granted at the start. -/
def granted (p : Policy) (r : Run) (order : List Stop) : List Wish :=
  (order.filterMap (r.wish? p)).filter fun w => r.session.Grants w.id w.declaration w.new

/-- A wish that is refused, or none, leaves the later ones as they were. -/
theorem granted_of_alike {middle : Run} {rest : List Stop}
    (halike : Alike r.session middle.session)
    (hwishes : rest.filterMap (middle.wish? p) = rest.filterMap (r.wish? p))
    (hrefused : ∀ w, r.wish? p stop = some w → ¬r.session.Grants w.id w.declaration w.new) :
    granted p r (stop :: rest) = granted p middle rest := by
  unfold granted
  rw [hwishes, List.filterMap_cons]
  simp only [halike.grants_iff]
  split
  · rfl
  case h_2 w hwish => rw [List.filter_cons_of_neg (by simpa using hrefused w hwish)]

/-- A wish that is granted leaves those as they were that are apart from it. -/
theorem granted_of_renamed {middle : Run} {rest : List Stop} {w : Wish}
    (hregistry : r.session.registry.WellFormed) (hwish : r.wish? p stop = some w)
    (hgranted : r.session.Grants w.id w.declaration w.new)
    (hrenamed : Renamed r.session middle.session w.id w.declaration w.new)
    (hwishes : rest.filterMap (middle.wish? p) = rest.filterMap (r.wish? p))
    (hapart : ∀ other ∈ rest.filterMap (r.wish? p), w.Apart other) :
    granted p r (stop :: rest) = w :: granted p middle rest := by
  unfold granted
  rw [hwishes, List.filterMap_cons_some hwish, List.filter_cons_of_pos (by simpa using hgranted)]
  congr 1
  refine List.filter_congr fun other hother => ?_
  simp only [Session.grants_of_renamed (hapart other hother) hregistry hrenamed]

/-- By induction on the order: the wishes that are granted are those that would be granted at the
start, since each of them leaves the later ones as they were. -/
theorem view_visitAll (hregistry : r.session.registry.WellFormed) {order : List Stop}
    (honce : (order.map Stop.id).Nodup)
    (hapart : (order.filterMap (r.wish? p)).Pairwise Wish.Apart)
    (hvisit : visitAll p r order = ⟨.ok (), r'⟩) :
    r'.session.view =
      (granted p r order).foldl (View.after r.session.collision) r.session.view := by
  induction order generalizing r with
  | nil =>
      obtain ⟨-, rfl⟩ := Attempt.success_eq hvisit
      rfl
  | cons stop rest ih =>
      rw [visitAll] at hvisit
      obtain ⟨_, middle, hfirst, hrest⟩ := Attempt.andThen_ok hvisit
      obtain ⟨hframes, hcases⟩ := visit_cases hregistry hfirst
      rw [List.map_cons, List.nodup_cons] at honce
      -- The other declarations are as they were, and so are the wishes for them.
      have hwishes (hsame : ∀ i, i ≠ stop.id →
          middle.session.declarations[i]? = r.session.declarations[i]?) :
          rest.filterMap (middle.wish? p) = rest.filterMap (r.wish? p) := by
        refine List.filterMap_congr fun other hother => wish?_congr hframes (hsame _ ?_)
        intro hid
        exact honce.1 (hid ▸ List.mem_map_of_mem hother)
      have hlater : (rest.filterMap (r.wish? p)).Pairwise Wish.Apart :=
        hapart.sublist ((List.sublist_cons_self stop rest).filterMap _)
      rcases hcases with ⟨halike, hrefused⟩ | ⟨w, hwish, hgranted, hrenamed, hcollision, hview⟩
      · have hsame := hwishes fun i _ => by rw [halike.declarations]
        rw [ih (by rwa [halike.registry]) honce.2 (by rwa [hsame]) hrest,
          granted_of_alike halike hsame hrefused, halike.collision, halike.view]
      · obtain ⟨hid, -⟩ := wish?_eq_some hwish
        have hsame := hwishes fun i hi => hrenamed.get_other (by rw [hid]; exact hi)
        have hregistry' : middle.session.registry.WellFormed := by
          rw [hrenamed.registry]
          exact hregistry.register _ _
        rw [List.filterMap_cons_some hwish, List.pairwise_cons] at hapart
        rw [ih hregistry' honce.2 (by rwa [hsame]) hrest,
          granted_of_renamed hregistry hwish hgranted hrenamed hsame hapart.1, List.foldl_cons,
          hcollision, hview]

/-! ## Any two orders -/

/-- Granted wishes that are apart can be granted in any order. -/
theorem foldl_after_perm {first second : List Wish} (hperm : first.Perm second)
    (hapart : first.Pairwise Wish.Apart) (collision : CollisionPolicy) (view : View) :
    first.foldl (View.after collision) view = second.foldl (View.after collision) view := by
  refine hperm.foldl_eq' ?_ view
  have hcomm : first.Pairwise fun v w => ∀ view : View,
      (view.after collision v).after collision w = (view.after collision w).after collision v :=
    hapart.imp fun h => View.after_comm h collision
  exact hcomm.forall_of_forall_of_flip (fun v _ view => rfl) (hcomm.imp fun h view => (h view).symm)

variable {declarations : List Declaration}

/-- At most one declaration has a file named after it. -/
def SingleOwners (declarations : List Declaration) : Prop :=
  declarations.Pairwise fun d e => d.ownsFile = true → e.ownsFile = true →
    d.path.normal ≠ e.path.normal

theorem path_ne_of_single {s : Session} (howners : SingleOwners declarations)
    (hfiles : s.files = declarations.map fun d => (d.path, d.ownsFile)) {i j : DeclarationId}
    {d e : Declaration} (hd : s.declarations[i]? = some d) (he : s.declarations[j]? = some e)
    (hij : i ≠ j) (hdowns : d.ownsFile = true) (heowns : e.ownsFile = true) :
    d.path.normal ≠ e.path.normal := by
  have hpairs : s.files.Pairwise fun f g => f.2 = true → g.2 = true → f.1.normal ≠ g.1.normal := by
    rw [hfiles, List.pairwise_map]
    exact howners
  rw [Session.files, List.pairwise_map, List.pairwise_iff_getElem] at hpairs
  obtain ⟨hi, rfl⟩ := List.getElem?_eq_some_iff.1 hd
  obtain ⟨hj, rfl⟩ := List.getElem?_eq_some_iff.1 he
  rcases Nat.lt_or_gt_of_ne hij with hlt | hgt
  · exact hpairs i j hi hj hlt hdowns heowns
  · exact (hpairs j i hj hi hgt heowns hdowns).symm

/-- The wishes of a policy are apart if none asks for a name that another one asks for or gives up,
provided that the declarations are told apart. -/
theorem pairwise_apart (htold : r.session.ToldApart) (howners : SingleOwners declarations)
    (hfiles : r.session.files = declarations.map fun d => (d.path, d.ownsFile))
    (honce : (r.stops.map Stop.id).Nodup)
    (hapart : ∀ v ∈ r.wishes p, ∀ w ∈ r.wishes p, v.id ≠ w.id →
      v.rename.new.key ≠ w.rename.new.key ∧ v.rename.new.key ≠ w.rename.old.key)
    {order : List Stop} (horder : order.Perm r.stops) :
    (order.filterMap (r.wish? p)).Pairwise Wish.Apart := by
  have hids : order.Pairwise fun a b => a.id ≠ b.id :=
    List.pairwise_map.1 ((horder.map Stop.id).nodup_iff.2 honce)
  rw [List.pairwise_filterMap]
  refine hids.imp_of_mem fun {a b} ha hb hab v hv w hw => ?_
  obtain ⟨hvid, hvfound, -⟩ := wish?_eq_some hv
  obtain ⟨hwid, hwfound, -⟩ := wish?_eq_some hw
  have hne : v.id ≠ w.id := by rwa [hvid, hwid]
  have hvmem : v ∈ r.wishes p := List.mem_filterMap.2 ⟨a, horder.subset ha, hv⟩
  have hwmem : w ∈ r.wishes p := List.mem_filterMap.2 ⟨b, horder.subset hb, hw⟩
  obtain ⟨hnew, hvold⟩ := hapart v hvmem w hwmem hne
  obtain ⟨-, hwold⟩ := hapart w hwmem v hvmem hne.symm
  refine ⟨hne, ⟨?_, hnew, hvold, hwold.symm⟩, path_ne_of_single howners hfiles hvfound hwfound hne⟩
  intro hkeys
  rw [Wish.key_old_rename, Wish.key_old_rename] at hkeys
  refine hne (htold.distinct v.id w.id v.declaration.key ?_ ?_)
  · rw [Session.keys, List.getElem?_map, hvfound, Option.map_some]
  · rw [Session.keys, List.getElem?_map, hwfound, Option.map_some, hkeys]

/-- **Order of visits.**  Start with declarations told apart by their keys, all of them in the
table, at most one of them owning a file, and let any calls be made, whether or not they fail.  Then
follow a policy none of whose wishes is for a name that another one is for or gives up, and visit
the declarations in any two orders.  If all visits return, the names, the registry and the plan are
the same in the end; they are also those after the pass of the policy, if it returns. -/
theorem visitAll_order {dryRun : Bool} {collision : CollisionPolicy}
    (hdistinct : (declarations.map Declaration.key).Nodup) (howners : SingleOwners declarations)
    (hcalled : (Session.opened dryRun collision declarations).Called r.session)
    (honce : (r.stops.map Stop.id).Nodup)
    (hapart : ∀ v ∈ r.wishes p, ∀ w ∈ r.wishes p, v.id ≠ w.id →
      v.rename.new.key ≠ w.rename.new.key ∧ v.rename.new.key ≠ w.rename.old.key)
    {first second : List Stop} (hfirst : first.Perm r.stops) (hsecond : second.Perm r.stops)
    {r₁ r₂ : Run} (hvisit₁ : visitAll p r first = ⟨.ok (), r₁⟩)
    (hvisit₂ : visitAll p r second = ⟨.ok (), r₂⟩) :
    r₁.session.view = r₂.session.view ∧
      ∀ r₃, r.follow p = ⟨.ok (), r₃⟩ → r₃.session.view = r₁.session.view := by
  have hopened : (Session.opened dryRun collision declarations).Coherent :=
    Session.coherent_indexAll rfl rfl hdistinct fun id hid => List.mem_range.2 hid
  have htold : r.session.ToldApart := hcalled.toldApart hopened.toldApart
  have hfiles : r.session.files = declarations.map fun d => (d.path, d.ownsFile) := by
    rw [hcalled.files, Session.files, Session.opened_declarations]
  have hsame {order : List Stop} {left : Run} (horder : order.Perm r.stops)
      (hvisit : visitAll p r order = ⟨.ok (), left⟩) :
      left.session.view =
        (granted p r r.stops).foldl (View.after r.session.collision) r.session.view := by
    have hpairs := pairwise_apart htold howners hfiles honce hapart horder
    rw [view_visitAll htold.registry ((horder.map Stop.id).nodup_iff.2 honce) hpairs hvisit]
    exact foldl_after_perm ((horder.filterMap _).filter _) (hpairs.filter _) _ _
  refine ⟨(hsame hfirst hvisit₁).trans (hsame hsecond hvisit₂).symm, fun r₃ hfollow => ?_⟩
  obtain ⟨left, hvisit, halike, -⟩ := follow_visitAll hfollow
  rw [halike.view, hsame (List.Perm.refl _) hvisit, hsame hfirst hvisit₁]

/-! ### Two orders after a call -/

/-- An interface of the namespace `App` whose file is named after it. -/
def interfaceIn (shortName : Name) : Declaration :=
  { shortName, space := "App", kind := .interface, path := ⟨"", [shortName ++ ".php"]⟩,
    ownsFile := true }

/-- Three interfaces, and a class that has the name wished for the second of them. -/
def contested : List Declaration :=
  [interfaceIn "Base", interfaceIn "Order", Session.classIn "OrderInterface", interfaceIn "Entity"]

/-- The first interface was renamed before, so the registry has an entry that the wish for it
redirects. -/
def contestedRun : Run where
  session := ((Session.opened false .error contested).apply { path := ⟨"", ["F"]⟩, content := [] } 0
    (some "Root") Policy.valueObject).state.1
  sources :=
    [{ path := ⟨"", ["F"]⟩, content := [], declarations := [0, 1, 2] },
      { path := ⟨"", ["G"]⟩, content := [], declarations := [3] }]

/-- Another order than the one of a pass. -/
def shuffledStops : List Stop :=
  [⟨0, 1⟩, ⟨1, 3⟩, ⟨0, 0⟩, ⟨0, 2⟩]

theorem visitAll_order_contested :
    (contestedRun.wishes Policy.interfaceEnding).length = 3 ∧
    (granted Policy.interfaceEnding contestedRun shuffledStops).length = 2 ∧
    (visitAll Policy.interfaceEnding contestedRun contestedRun.stops.reverse).state.session.view =
      (visitAll Policy.interfaceEnding contestedRun shuffledStops).state.session.view := by
  obtain ⟨⟨⟩, hfirst⟩ := Attempt.exists_ok (a := visitAll Policy.interfaceEnding contestedRun
    contestedRun.stops.reverse) (by decide +kernel)
  obtain ⟨⟨⟩, hsecond⟩ := Attempt.exists_ok (a := visitAll Policy.interfaceEnding contestedRun
    shuffledStops) (by decide +kernel)
  have hcalled : (Session.opened false .error contested).Called contestedRun.session :=
    .call _ _ _ _ .start
  exact ⟨by decide +kernel, by decide +kernel,
    (visitAll_order (by decide +kernel) (by unfold SingleOwners; decide +kernel) hcalled
      (by decide +kernel) (by decide +kernel) (List.reverse_perm _) (by decide +kernel)
      hfirst hsecond).1⟩

end Run

end Rechristen
