import Rechristen.Proofs.Pass.References
import Rechristen.Proofs.Session.Respelling
import Rechristen.Run

/-!
# One file while policies are followed

The pass of a policy goes through the files, and in each file through its declarations.  Seen from
one file, calls of `apply` for its own declarations alternate with work elsewhere, which changes the
session but not the file.  This is the *course* of the file (`Course`), and the calls are recorded
as *visits*.

What a file means is followed along its course.  Each call keeps the name to which the registry
leads in the end from what a reference stands for, provided the call does not disturb the reference
(`Visit.Keeps`); so the whole course does (`Course.leadsAt`).
-/

namespace Rechristen

open Session (Respelled BorneOut)

/-- A call of `apply` for a file: the session it leaves and the file before and after. -/
structure Visit where
  session : Session
  before : Source
  after : Source

/-- The reference at a place keeps its binding when the references change. -/
def Reference.KeepsBindingAt (before after : List Reference) (i : Nat) : Prop :=
  ∀ b ∈ before[i]?, ∀ a ∈ after[i]?, b.KeepsBinding before after a

instance (before after : List Reference) (i : Nat) :
    Decidable (Reference.KeepsBindingAt before after i) :=
  inferInstanceAs (Decidable (∀ b ∈ before[i]?, ∀ a ∈ after[i]?, _))

/-- A visit does not disturb the reference at a place: it keeps its binding, and if the reference
that decides what it stands for gets a new name, that is borne out by the final registry. -/
def Visit.Keeps (final : Registry) (v : Visit) (i : Nat) : Prop :=
  Reference.KeepsBindingAt v.before.references v.after.references i ∧
    ∀ b ∈ v.before.references[i]?, BorneOut final v.session v.before.references v.after.references
      (b.decider v.before.references i)

instance (final : Registry) (v : Visit) (i : Nat) : Decidable (v.Keeps final i) :=
  inferInstanceAs (Decidable (_ ∧ ∀ b ∈ v.before.references[i]?, _))

/-- The registry leads to `key` from what the reference at a place stands for. -/
def Source.LeadsAt (source : Source) (registry : Registry) (i : Nat) (key : Name.Key) : Prop :=
  ∃ site, source.references[i]? = some site ∧
    registry.present (site.meaning source.references).key = key

/-- The references of a file are as they are read from one. -/
def Source.Formed (source : Source) : Prop :=
  ∀ site ∈ source.references, References.WellFormed site

/-! ## One call -/

namespace Session

variable {s t u : Session} {p : Policy} {source after : Source} {id : DeclarationId}
  {newName : Option Name} {record : Option RenameRecord}

/-- A call leaves the references of the file alone or respells them. -/
theorem apply_references (happly : s.apply source id newName p = ⟨.ok record, (t, after)⟩) :
    after.references = source.references ∨
      ∃ edited, edited.references = source.references ∧ Respelled t p edited after := by
  rcases apply_cases happly with ⟨-, -, rfl⟩ | ⟨d, new, -, -, -, -, edited, hedit, hrespelled⟩
  · exact Or.inl rfl
  · refine Or.inr ⟨edited, ?_, hrespelled⟩
    unfold editName at hedit
    split at hedit
    · exact Source.replace_references hedit
    · obtain ⟨-, rfl⟩ := Attempt.success_eq hedit
      rfl

theorem formed_apply (hp : p.rule.Plain)
    (happly : s.apply source id newName p = ⟨.ok record, (t, after)⟩) (hformed : source.Formed) :
    after.Formed := by
  unfold Source.Formed at hformed ⊢
  rcases apply_references happly with hsame | ⟨edited, hsame, hrespelled⟩
  · rwa [hsame]
  · rw [← hsame] at hformed
    intro a ha
    obtain ⟨i, hi⟩ := List.mem_iff_getElem?.1 ha
    obtain ⟨b, hb⟩ : ∃ b, edited.references[i]? = some b := by
      have hlt := (List.getElem?_eq_some_iff.1 hi).1
      rw [(rewordedAt_of_respelled hrespelled).length] at hlt
      exact ⟨edited.references[i], List.getElem?_eq_getElem hlt⟩
    have hword := reworded_of_respelled hrespelled hb hi
    have hbefore := hformed b (List.mem_of_getElem? hb)
    constructor
    · intro hkind
      rw [hword.kind] at hkind
      rw [hword.name]
      cases hnew : t.chosenName? p edited.references b with
      | none => exact hbefore.bare hkind
      | some new =>
          obtain ⟨last, hlast, rfl⟩ := localRewording_last hp (chosenName?_eq_some hnew)
          rw [Option.getD_some, Name.isCompound_withLast hlast]
          exact hbefore.bare hkind
    · have hgroup := hbefore.group
      unfold References.GroupSpelled Reference.group? at hgroup ⊢
      rwa [hword.group]

theorem leadsAt_apply (ht : t.Coherent) (htidy : t.Tidy) (hp : p.rule.Plain)
    (hreaches : t.Reaches u) (happly : s.apply source id newName p = ⟨.ok record, (t, after)⟩)
    {i : Nat} (hkeeps : Visit.Keeps u.registry ⟨t, source, after⟩ i) {key : Name.Key}
    (hleads : source.LeadsAt u.registry i key) : after.LeadsAt u.registry i key := by
  obtain ⟨b, hb, hpresent⟩ := hleads
  rcases apply_references happly with hsame | ⟨edited, hsame, hrespelled⟩
  · exact ⟨b, by rw [hsame, hb], by rw [hsame, hpresent]⟩
  · obtain ⟨hbinding, hborne⟩ := hkeeps
    dsimp only at hbinding hborne
    have hborne := hborne b hb
    rw [← hsame] at hbinding hborne hb hpresent
    obtain ⟨a, ha, -⟩ := (rewordedAt_of_respelled hrespelled).exists_after hb
    refine ⟨a, ha, ?_⟩
    rw [meaning_respelled ht htidy hp hreaches hrespelled hb ha (hbinding b hb a ha) hborne,
      hpresent]

end Session

/-! ## The course of a file -/

/-- How a file fares while policies are followed.  The session goes on elsewhere, or a call is made
for a declaration of the file. -/
inductive Course : Session → Source → List Visit → Session → Source → Prop
  | done (s : Session) (source : Source) : Course s source [] s source
  | elsewhere {s t u : Session} {source after : Source} {visits : List Visit} :
      s.Reaches t → Course t source visits u after → Course s source visits u after
  | visit {s t u : Session} {source middle after : Source} {visits : List Visit}
      {id : DeclarationId} {newName : Option Name} {p : Policy} {record : Option RenameRecord} :
      p.rule.Plain → (∀ new, newName = some new → new.IsShort) →
      s.apply source id newName p = ⟨.ok record, (t, middle)⟩ →
      Course t middle visits u after → Course s source (⟨t, source, middle⟩ :: visits) u after

namespace Course

variable {s t u : Session} {source middle after : Source} {visits later : List Visit}

theorem reaches (hcourse : Course s source visits u after) : s.Reaches u := by
  induction hcourse with
  | done => exact .start
  | elsewhere hreaches _ ih => exact hreaches.trans ih
  | visit _ hshort happly _ ih => exact (Session.Reaches.start.apply hshort happly).trans ih

theorem trans (hfirst : Course s source visits t middle) (hsecond : Course t middle later u after) :
    Course s source (visits ++ later) u after := by
  induction hfirst with
  | done => exact hsecond
  | elsewhere hreaches _ ih => exact .elsewhere hreaches (ih hsecond)
  | visit hp hshort happly _ ih => exact .visit hp hshort happly (ih hsecond)

theorem formed (hcourse : Course s source visits u after) (hformed : source.Formed) :
    after.Formed := by
  induction hcourse with
  | done => exact hformed
  | elsewhere _ _ ih => exact ih hformed
  | visit hp _ happly _ ih => exact ih (Session.formed_apply hp happly hformed)

/-- A file whose course does not disturb a reference: the registry leads in the end from what the
reference stands for to the same name, whenever it is asked. -/
theorem leadsAt (hcourse : Course s source visits u after) (hs : s.Coherent) (htidy : s.Tidy)
    {i : Nat} (hkeeps : ∀ v ∈ visits, v.Keeps u.registry i) {key : Name.Key}
    (hleads : source.LeadsAt u.registry i key) : after.LeadsAt u.registry i key := by
  induction hcourse with
  | done => exact hleads
  | elsewhere hreaches _ ih =>
      exact ih (hs.reaches hreaches) (htidy.reaches hreaches) hkeeps hleads
  | visit hp hshort happly hrest ih =>
      have hcall := Session.Reaches.start.apply hshort happly
      obtain ⟨hfirst, hlater⟩ := List.forall_mem_cons.1 hkeeps
      refine ih (hs.reaches hcall) (htidy.reaches hcall) hlater ?_
      exact Session.leadsAt_apply (hs.reaches hcall) (htidy.reaches hcall) hp hrest.reaches happly
        hfirst hleads

end Course

/-! ## Policies and files -/

namespace Run

/-- The calls made while a policy is followed at some declarations of a file. -/
def visitsIn (p : Policy) (session : Session) (source : Source) : List DeclarationId → List Visit
  | [] => []
  | id :: rest =>
    let newName :=
      session.declarations[id]?.bind fun d => p.tryRename d (d.place (some source.relativePath))
    let left := (session.apply source id newName p).state
    ⟨left.1, source, left.2⟩ :: visitsIn p left.1 left.2 rest

/-- The calls made for each of the files while a policy is followed in them. -/
def visitsOver (p : Policy) (session : Session) : List Source → List (List Visit)
  | [] => []
  | source :: rest =>
    visitsIn p session source source.declarations ::
      visitsOver p (followIn p session source source.declarations).state.1 rest

/-- The calls made for the file at a place while policies are followed. -/
def visitsAt (file : Nat) (r : Run) : List Policy → List Visit
  | [] => []
  | p :: rest =>
    (visitsOver p r.session r.sources)[file]?.getD [] ++ visitsAt file (r.follow p).state rest

variable {p : Policy} {session left : Session} {count : Nat}

theorem followIn_course (hp : p.rule.Plain) (htidy : session.Tidy) {source after : Source}
    {ids : List DeclarationId}
    (hfollow : followIn p session source ids = ⟨.ok count, (left, after)⟩) :
    Course session source (visitsIn p session source ids) left after := by
  induction ids generalizing session source count with
  | nil =>
      obtain ⟨-, hstate⟩ := Attempt.success_eq hfollow
      obtain ⟨rfl, rfl⟩ := Prod.mk.inj hstate
      exact .done _ _
  | cons id rest ih =>
      rw [followIn] at hfollow
      obtain ⟨record, ⟨middle, between⟩, happly, hrest⟩ := Attempt.andThen_ok hfollow
      obtain ⟨_, hrest, -⟩ := Attempt.map_ok hrest
      have hshort : ∀ new, (session.declarations[id]?.bind fun d =>
          p.tryRename d (d.place (some source.relativePath))) = some new → Name.IsShort new := by
        intro new hnew
        obtain ⟨d, hd, hnew⟩ := Option.bind_eq_some_iff.1 hnew
        exact Policy.isShort_of_tryRename hp (htidy.short id d hd) hnew
      rw [visitsIn, happly]
      exact .visit hp hshort happly
        (ih (htidy.reaches (Session.Reaches.start.apply hshort happly)) hrest)

theorem followOver_course (hp : p.rule.Plain) (htidy : session.Tidy) {sources after : List Source}
    (hfollow : followOver p session sources = ⟨.ok count, (left, after)⟩) :
    session.Reaches left ∧ ∀ (file : Nat) (source : Source), sources[file]? = some source →
      ∃ source' visits, after[file]? = some source' ∧
        (visitsOver p session sources)[file]? = some visits ∧
        Course session source visits left source' := by
  induction sources generalizing session after count with
  | nil =>
      obtain ⟨-, hstate⟩ := Attempt.success_eq hfollow
      obtain ⟨rfl, rfl⟩ := Prod.mk.inj hstate
      exact ⟨.start, fun file source hsource => by simp at hsource⟩
  | cons first rest ih =>
      rw [followOver] at hfollow
      generalize hhead : followIn p session first first.declarations = head at hfollow
      obtain ⟨result, middle, first'⟩ := head
      cases result with
      | error cause => exact absurd hfollow Attempt.failure_ne
      | ok n =>
          dsimp only at hfollow
          generalize htail : followOver p middle rest = tail at hfollow
          obtain ⟨result, left', rest'⟩ := tail
          cases result with
          | error cause => simp [Except.map] at hfollow
          | ok m =>
              have hfirst := followIn_course hp htidy hhead
              obtain ⟨-, hstate⟩ := Attempt.success_eq hfollow
              obtain ⟨rfl, rfl⟩ := Prod.mk.inj hstate
              obtain ⟨hreaches, hfiles⟩ := ih (htidy.reaches hfirst.reaches) htail
              refine ⟨hfirst.reaches.trans hreaches, fun file source hsource => ?_⟩
              rw [visitsOver, hhead]
              cases file with
              | zero =>
                  obtain rfl : first = source := by simpa using hsource
                  refine ⟨first', _, rfl, rfl, ?_⟩
                  -- The first file is done when the calls for the others are made.
                  have hcourse := hfirst.trans (.elsewhere hreaches (.done left' first'))
                  rwa [List.append_nil] at hcourse
              | succ file =>
                  obtain ⟨source', visits, hafter, hvisits, hcourse⟩ := hfiles file source hsource
                  exact ⟨source', visits, hafter, hvisits, .elsewhere hfirst.reaches hcourse⟩

variable {r r' : Run} {policies : List Policy}

theorem stage_ok {α : Type} {name : String} {fields : Fields} {a : Attempt Run α} {value : α}
    (hstage : stage name fields a = ⟨.ok value, r⟩) :
    ∃ events middle, a = ⟨.ok value, middle⟩ ∧ r = middle.note events := by
  obtain ⟨middle, ha, hnote⟩ := Attempt.into_ok hstage
  exact ⟨_, middle, ha, hnote.symm⟩

theorem follow_course (hp : p.rule.Plain) (htidy : r.session.Tidy)
    (hfollow : r.follow p = ⟨.ok (), r'⟩) :
    r.session.Reaches r'.session ∧
      ∀ (file : Nat) (source : Source), r.sources[file]? = some source →
        ∃ source', r'.sources[file]? = some source' ∧
          Course r.session source ((visitsOver p r.session r.sources)[file]?.getD []) r'.session
            source' := by
  unfold follow at hfollow
  obtain ⟨count, middle, hstage, hrest⟩ := Attempt.andThen_ok hfollow
  obtain ⟨events, passed, hpass, rfl⟩ := stage_ok hstage
  obtain ⟨⟨left, sources⟩, hover, rfl⟩ := Attempt.into_ok hpass
  obtain ⟨hreaches, hfiles⟩ := followOver_course hp htidy hover
  -- What is reported afterwards changes neither the names nor the files.
  obtain ⟨hsession, hsources⟩ : left.Reaches r'.session ∧ r'.sources = sources := by
    obtain ⟨-, rfl⟩ := Attempt.success_eq hrest
    split
    · exact ⟨Session.Reaches.start.note events, rfl⟩
    · exact ⟨(Session.Reaches.start.note events).note _, rfl⟩
  refine ⟨hreaches.trans hsession, fun file source hsource => ?_⟩
  obtain ⟨source', visits, hafter, hvisits, hcourse⟩ := hfiles file source hsource
  refine ⟨source', by rw [hsources, hafter], ?_⟩
  have hwhole := hcourse.trans (.elsewhere hsession (.done _ source'))
  rwa [List.append_nil, ← Option.getD_some (a := visits) (b := []), ← hvisits] at hwhole

/-- **The course of every file.**  While policies are followed, each file of the run has a course,
from the session at the start to the session in the end. -/
theorem followAll_course (hplain : ∀ p ∈ policies, p.rule.Plain) (htidy : r.session.Tidy)
    (hfollow : r.followAll policies = ⟨.ok (), r'⟩) :
    r.session.Reaches r'.session ∧
      ∀ (file : Nat) (source : Source), r.sources[file]? = some source →
        ∃ source', r'.sources[file]? = some source' ∧
          Course r.session source (visitsAt file r policies) r'.session source' := by
  induction policies generalizing r with
  | nil =>
      obtain ⟨-, rfl⟩ := Attempt.success_eq hfollow
      exact ⟨.start, fun file source hsource => ⟨source, hsource, .done _ _⟩⟩
  | cons p rest ih =>
      obtain ⟨hp, hrest⟩ := List.forall_mem_cons.1 hplain
      rw [followAll] at hfollow
      obtain ⟨_, middle, hfirst, hlater⟩ := Attempt.andThen_ok hfollow
      obtain ⟨hreaches, hfiles⟩ := follow_course hp htidy hfirst
      obtain ⟨hreaches', hfiles'⟩ := ih hrest (htidy.reaches hreaches) hlater
      refine ⟨hreaches.trans hreaches', fun file source hsource => ?_⟩
      obtain ⟨between, hbetween, hcourse⟩ := hfiles file source hsource
      obtain ⟨after, hafter, hcourse'⟩ := hfiles' file between hbetween
      refine ⟨after, hafter, ?_⟩
      rw [visitsAt, hfirst]
      exact hcourse.trans hcourse'

end Run

end Rechristen
