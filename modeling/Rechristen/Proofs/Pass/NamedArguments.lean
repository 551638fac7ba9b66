import Rechristen.Pass.NamedArguments
import Rechristen.Proofs.DeclarationTable.Search
import Rechristen.Proofs.Edits.Conflicts

/-!
# What naming arguments does to a file

Which calls get names is told without the pass (`Nameable`): the call creates an object or calls a
static method, its arguments are all positional and enough of them, and its class has or inherits
the method with a parameter for each of them.  The pass goes through the calls in their order.  It
puts a name in front of every argument of such a call and leaves all other calls as they are
(`Naming`).

Calls may be nested, so their edits lie close together and share the queue.  Insertions at different
offsets are never in each other's way, and neither are an insertion and an edit that starts or ends
where it is made (`Vacant`).  Named arguments are not positional, so the pass finds nothing to do in
a file that it has gone through.
-/

namespace Rechristen

/-! ## Insertions -/

namespace Edits

variable {e : Edits} {offset : Int}

/-- An offset lies inside no queued edit, and nothing is inserted there. -/
def Vacant (e : Edits) (offset : Int) : Prop :=
  ∀ q ∈ e.queue, ¬ (q.span.start < offset ∧ offset < q.span.stop) ∧ q.span ≠ Span.point offset

instance (e : Edits) (offset : Int) : Decidable (e.Vacant offset) :=
  inferInstanceAs (Decidable (∀ q ∈ e.queue, _))

theorem Vacant.replace (hvacant : e.Vacant offset) (text : String) :
    e.replace ⟨Span.point offset, text⟩ = .ok ⟨e.queue ++ [⟨Span.point offset, text⟩]⟩ := by
  have hfree : e.conflict? (Span.point offset) = none := by
    refine conflict?_eq_none_of fun q hq _ => ?_
    rw [overlaps_eq_false_iff]
    have hinside := (hvacant q hq).1
    simp only [Span.point]
    omega
  have hnew : (e.queue.any fun q => q.span = Span.point offset) = false := by
    simpa using fun q hq => (hvacant q hq).2
  simp only [Edits.replace, hfree, put, hnew]
  rfl

/-- An offset stays vacant if something is inserted elsewhere. -/
theorem Vacant.append (hvacant : e.Vacant offset) {insertions : List Edit}
    (helsewhere : ∀ i ∈ insertions, ∃ other, i.span = Span.point other ∧ other ≠ offset) :
    Vacant ⟨e.queue ++ insertions⟩ offset := by
  intro q hq
  rcases List.mem_append.1 hq with hq | hq
  · exact hvacant q hq
  · obtain ⟨other, hspan, hne⟩ := helsewhere q hq
    rw [hspan]
    refine ⟨?_, fun hsame => hne (congrArg Span.start hsame)⟩
    simp only [Span.point]
    omega

end Edits

namespace NamedArguments

variable {l : Lookup} {source : Source} {call : Call} {parameters : List String}

/-! ## Calls that can be named -/

/-- The declaration that a call stands in. -/
def Encloses (declarations : List Declaration) (source : Source) (call : Call) (d : Declaration) :
    Prop :=
  ∃ i id, call.enclosing = some i ∧ source.declarations[i]? = some id ∧ declarations[id]? = some d

/-- The class a call is made on.  A word stands for the class around the call or the one that
extends; a name is read where it is written. -/
inductive CalledOn (declarations : List Declaration) (source : Source) (call : Call) : Name → Prop
  | extended {d : Declaration} {name : Name} : call.relativeScope = some "parent" →
      Encloses declarations source call d → d.parent = some name →
      CalledOn declarations source call name
  | around {d : Declaration} {word : String} : call.relativeScope = some word → word ≠ "parent" →
      Encloses declarations source call d → CalledOn declarations source call d.name
  | written {i : Nat} {site : Reference} : call.relativeScope = none →
      call.classReference = some i → source.references[i]? = some site →
      CalledOn declarations source call
        ((Resolver.ofReferences call.space source.references).resolve site.name)

/-- The method a call is made to, if its class can be known. -/
inductive CallsMethod (call : Call) : String → Prop
  | creation : call.kind = .new_ → CallsMethod call "__construct"
  | static {method : String} : call.kind = .static_ → call.method = some method → method ≠ "" →
      CallsMethod call method

/-- What a class is called now. -/
def Lookup.present (l : Lookup) (name : Name) : Name :=
  (l.registry.map (·.resolve name)).getD name

/-- The arguments of a call can be given the names of parameters. -/
structure Nameable (l : Lookup) (source : Source) (call : Call) (parameters : List String) :
    Prop where
  known : ∃ name method, CalledOn l.declarations source call name ∧ CallsMethod call method ∧
    l.table.Inherits l.declarations l.present (Text.lowercase method) [] name parameters
  enough : l.least ≤ call.arguments.length
  positional : ∀ a ∈ call.arguments, a.isNamed = false ∧ a.isUnpacked = false
  matched : call.arguments.length ≤ parameters.length
  nonempty : parameters ≠ []

theorem classOf?_eq_some_iff {declarations : List Declaration} {name : Name} :
    classOf? declarations source call = some name ↔ CalledOn declarations source call name := by
  have henclosing {d : Declaration} :
      (call.enclosing.bind (source.declarations[·]?)).bind (declarations[·]?) = some d ↔
        Encloses declarations source call d := by
    simp only [Option.bind_eq_some_iff, Encloses]
    constructor
    · rintro ⟨id, ⟨i, hi, hid⟩, hd⟩
      exact ⟨i, id, hi, hid, hd⟩
    · rintro ⟨i, id, hi, hid, hd⟩
      exact ⟨id, ⟨i, hi, hid⟩, hd⟩
  unfold classOf?
  cases hscope : call.relativeScope with
  | none =>
      simp only [Option.map_eq_some_iff, Option.bind_eq_some_iff]
      constructor
      · rintro ⟨site, ⟨i, hi, hsite⟩, rfl⟩
        exact .written hscope hi hsite
      · rintro (⟨hword, -, -⟩ | ⟨hword, -, -⟩ | ⟨-, hi, hsite⟩)
        · rw [hscope] at hword
          cases hword
        · rw [hscope] at hword
          cases hword
        · exact ⟨_, ⟨_, hi, hsite⟩, rfl⟩
  | some word =>
      dsimp only
      constructor
      · intro hname
        split at hname
        case h_1 => cases hname
        case h_2 d hd =>
          split at hname
          case isTrue hparent => exact .extended (hparent ▸ hscope) (henclosing.1 hd) hname
          case isFalse hother =>
            obtain rfl := Option.some.inj hname
            exact .around hscope hother (henclosing.1 hd)
      · -- Of the three ways to be called on a class the last one needs a call without such a word.
        rintro (⟨hword, hd, hparent⟩ | ⟨hword, hother, hd⟩ | ⟨hword, -, -⟩)
        · obtain rfl := Option.some.inj (hscope.symm.trans hword)
          rw [henclosing.2 hd]
          simpa using hparent
        · obtain rfl := Option.some.inj (hscope.symm.trans hword)
          rw [henclosing.2 hd]
          simp [hother]
        · rw [hscope] at hword
          cases hword

theorem methodOf?_eq_some_iff {method : String} :
    methodOf? call = some method ↔ CallsMethod call method := by
  unfold methodOf?
  constructor
  · intro hmethod
    split at hmethod
    case h_1 hkind =>
      obtain rfl := Option.some.inj hmethod
      exact .creation hkind
    case h_2 hkind =>
      obtain ⟨hnamed, hword⟩ := Option.filter_eq_some_iff.1 hmethod
      exact .static hkind hnamed (by simpa using hword)
    case h_3 => cases hmethod
  · rintro (hkind | ⟨hkind, hnamed, hword⟩)
    · rw [hkind]
      rfl
    · rw [hkind, hnamed]
      simp [hword]

/-- The pass names the calls that can be named. -/
theorem namesFor?_eq_some_iff :
    namesFor? l source call = some parameters ↔ Nameable l source call parameters := by
  have hplain : isPlain l.least call = true ↔ l.least ≤ call.arguments.length ∧
      ∀ a ∈ call.arguments, a.isNamed = false ∧ a.isUnpacked = false := by
    simp [isPlain]
  unfold namesFor?
  constructor
  · intro hnames
    split at hnames
    case h_1 => cases hnames
    case h_2 method hmethod =>
      split at hnames
      case isFalse => cases hnames
      case isTrue henough =>
        obtain ⟨hleast, hpositional⟩ := hplain.1 henough
        split at hnames
        case h_1 => cases hnames
        case h_2 name hname =>
          obtain ⟨hfound, hfits⟩ := Option.filter_eq_some_iff.1 hnames
          simp only [Bool.and_eq_true, Bool.not_eq_true', List.isEmpty_eq_false_iff,
            decide_eq_true_eq] at hfits
          exact ⟨⟨name, method, classOf?_eq_some_iff.1 hname, methodOf?_eq_some_iff.1 hmethod,
            DeclarationTable.parameters_eq_some_iff.1 hfound⟩, hleast, hpositional, hfits.2,
            hfits.1⟩
  · rintro ⟨⟨name, method, hname, hmethod, hinherits⟩, hleast, hpositional, hmatched, hnonempty⟩
    have hfound : l.table.parameters l.declarations l.registry name method = some parameters :=
      DeclarationTable.parameters_eq_some_iff.2 hinherits
    rw [methodOf?_eq_some_iff.2 hmethod]
    dsimp only
    rw [if_pos (hplain.2 ⟨hleast, hpositional⟩), classOf?_eq_some_iff.2 hname]
    simp [hfound, hmatched, hnonempty]

/-! ## One call -/

/-- An argument with its parameter's name. -/
def named (a : Argument) (parameter : String) : Argument :=
  { a with isNamed := true, name := some parameter }

/-- The name of a parameter in front of an argument. -/
def insertion (a : Argument) (parameter : String) : Edit :=
  ⟨Span.point a.span.start, parameter ++ ": "⟩

/-- A file with other calls and with insertions behind its queued edits; all else is as it was. -/
def edited (source : Source) (calls : List Call) (insertions : List Edit) : Source :=
  { source with
    edits := ⟨source.edits.queue ++ insertions⟩
    calls }

theorem edited_self {calls : List Call} (hcalls : source.calls = calls) :
    edited source calls [] = source := by
  rw [edited, List.append_nil, ← hcalls]

theorem modify_middle {α : Type} (before after : List α) (x : α) (f : α → α) :
    (before ++ x :: after).modify before.length f = before ++ f x :: after := by
  induction before with
  | nil => rfl
  | cons y before ih => simpa using ih

theorem offset_of_mem_insertions {arguments : List Argument} {i : Edit}
    (hi : i ∈ List.zipWith insertion arguments parameters) :
    ∃ a ∈ arguments, i.span = Span.point a.span.start := by
  rw [← List.map_uncurry_zip_eq_zipWith] at hi
  obtain ⟨⟨a, parameter⟩, hpair, rfl⟩ := List.mem_map.1 hi
  exact ⟨a, (List.of_mem_zip hpair).1, rfl⟩

/-- By induction on the arguments that are left: each gets its name, and an insertion in front of
it. -/
theorem nameFrom_eq {before after : List Call} {done rest : List Argument}
    (hcalls : source.calls = before ++ { call with arguments := done ++ rest } :: after)
    (hmatched : rest.length ≤ parameters.length)
    (hapart : (rest.map (·.span.start)).Nodup)
    (hvacant : ∀ a ∈ rest, source.edits.Vacant a.span.start) :
    nameFrom source before.length done.length (rest.zip parameters) =
      .success () (edited source
        (before ++ { call with arguments := done ++ List.zipWith named rest parameters } :: after)
        (List.zipWith insertion rest parameters)) := by
  induction rest generalizing source done parameters with
  | nil =>
      rw [List.zip_nil_left, nameFrom, List.zipWith_nil_left, List.zipWith_nil_left,
        edited_self hcalls]
  | cons a rest ih =>
      cases parameters with
      | nil => simp at hmatched
      | cons parameter parameters =>
          obtain ⟨hfresh, hrest⟩ := List.nodup_cons.1 hapart
          -- The first argument that is left gets its name, and joins those that are done.
          have hreplace : source.replace (Span.point a.span.start) (parameter ++ ": ") =
              .success ()
                { source with edits := ⟨source.edits.queue ++ [insertion a parameter]⟩ } := by
            rw [Source.replace, (hvacant a List.mem_cons_self).replace]
            rfl
          have hmodify : (source.calls.modify before.length fun c =>
              { c with
                arguments := c.arguments.modify done.length
                  ({ · with isNamed := true, name := some parameter }) }) =
              before ++ { call with arguments := (done ++ [named a parameter]) ++ rest } ::
                after := by
            rw [hcalls, modify_middle]
            simp only [modify_middle, List.append_assoc, List.singleton_append]
            rfl
          have hlength : done.length + 1 = (done ++ [named a parameter]).length := by simp
          rw [List.zip_cons_cons, nameFrom, nameArgument, hreplace]
          simp only [Attempt.andThen_success]
          rw [hmodify, hlength]
          refine (ih rfl (by simpa using hmatched) hrest fun b hb => ?_).trans ?_
          · -- The new insertion is in front of another argument.
            refine (hvacant b (List.mem_cons_of_mem a hb)).append fun i hi => ?_
            obtain rfl := List.mem_singleton.1 hi
            exact ⟨a.span.start, rfl, fun hsame => hfresh (List.mem_map.2 ⟨b, hb, hsame.symm⟩)⟩
          · simp only [edited, List.append_assoc, List.singleton_append, List.zipWith_cons_cons]

/-! ## All calls -/

/-- The starts of all arguments. -/
def offsets (calls : List Call) : List Int :=
  calls.flatMap fun call => call.arguments.map (·.span.start)

/-- Calls one after the other, what becomes of them, the insertions made and the number of calls
that get names.  A call that cannot be named stays as it is; otherwise each of its arguments is
named, with one insertion at its start. -/
inductive Naming (l : Lookup) (source : Source) :
    List Call → List Call → List Edit → Nat → Prop
  | nil : Naming l source [] [] [] 0
  | leave {call : Call} {calls left : List Call} {insertions : List Edit} {count : Nat} :
      (∀ parameters, ¬ Nameable l source call parameters) →
      Naming l source calls left insertions count →
      Naming l source (call :: calls) (call :: left) insertions count
  | name {call : Call} {parameters : List String} {calls left : List Call} {insertions : List Edit}
      {count : Nat} : Nameable l source call parameters →
      Naming l source calls left insertions count →
      Naming l source (call :: calls)
        ({ call with arguments := List.zipWith named call.arguments parameters } :: left)
        (List.zipWith insertion call.arguments parameters ++ insertions) (count + 1)

/-- By induction on the calls that are left.  What they are named after does not change while the
pass goes on, and the insertions made so far are at other offsets. -/
theorem nameCalls_eq {s : Source} {before later : List Call} (hcalls : s.calls = before ++ later)
    (hapart : (offsets later).Nodup) (hvacant : ∀ offset ∈ offsets later, s.edits.Vacant offset) :
    ∃ left insertions count, Naming l source later left insertions count ∧
      nameCalls s before.length (later.map fun c => (c, namesFor? l source c)) =
        .success count (edited s (before ++ left) insertions) := by
  induction later generalizing s before with
  | nil =>
      refine ⟨[], [], 0, .nil, ?_⟩
      rw [List.map_nil, nameCalls, edited_self hcalls]
  | cons call later ih =>
      obtain ⟨hown, hlater, hdisjoint⟩ := List.nodup_append.1 hapart
      cases hnames : namesFor? l source call with
      | none =>
          have hleave : ∀ parameters, ¬ Nameable l source call parameters := by
            intro parameters hnameable
            rw [namesFor?_eq_some_iff.2 hnameable] at hnames
            cases hnames
          have hsplit : s.calls = (before ++ [call]) ++ later := by simpa using hcalls
          obtain ⟨left, insertions, count, hnaming, hrest⟩ := ih hsplit hlater
            fun offset hoffset => hvacant offset (List.mem_append_right _ hoffset)
          refine ⟨call :: left, insertions, count, .leave hleave hnaming, ?_⟩
          simpa [nameCalls, hnames] using hrest
      | some parameters =>
          have hnameable := namesFor?_eq_some_iff.1 hnames
          have hsplit : s.calls =
              before ++ { call with arguments := [] ++ call.arguments } :: later := hcalls
          have hfirst := nameFrom_eq hsplit hnameable.matched hown fun a ha =>
            hvacant _ (List.mem_append_left _ (List.mem_map_of_mem ha))
          rw [List.nil_append] at hfirst
          generalize hcall : ({ call with
            arguments := List.zipWith named call.arguments parameters } : Call) = renamed at hfirst
          have hsplit' : (edited s (before ++ renamed :: later)
              (List.zipWith insertion call.arguments parameters)).calls =
                (before ++ [renamed]) ++ later := by
            simp [edited]
          -- The new insertions are at the offsets of this call; later calls have other ones.
          have hvacant' : ∀ offset ∈ offsets later,
              (edited s (before ++ renamed :: later)
                (List.zipWith insertion call.arguments parameters)).edits.Vacant offset := by
            intro offset hoffset
            refine (hvacant offset (List.mem_append_right _ hoffset)).append fun i hi => ?_
            obtain ⟨a, ha, hspan⟩ := offset_of_mem_insertions hi
            exact ⟨a.span.start, hspan, hdisjoint _ (List.mem_map_of_mem ha) offset hoffset⟩
          obtain ⟨left, insertions, count, hnaming, hrest⟩ := ih hsplit' hlater hvacant'
          have hname := Naming.name hnameable hnaming
          rw [hcall] at hname
          refine ⟨renamed :: left, _, count + 1, hname, ?_⟩
          rw [List.length_append, List.length_singleton] at hrest
          rw [List.length_nil] at hfirst
          rw [List.map_cons, hnames, nameCalls, hfirst, Attempt.andThen_success, hrest,
            Attempt.map_success, Nat.add_comm]
          simp only [edited, List.append_assoc, List.singleton_append]

/-- If no call can be named, nothing is done. -/
theorem nameCalls_of_none {s : Source} (index : Nat) {calls : List (Call × Option (List String))}
    (hnone : ∀ pair ∈ calls, pair.2 = none) : nameCalls s index calls = .success 0 s := by
  induction calls generalizing index with
  | nil => rfl
  | cons first rest ih =>
      obtain ⟨hfirst, hrest⟩ := List.forall_mem_cons.1 hnone
      obtain ⟨call, names⟩ := first
      obtain rfl : names = none := hfirst
      exact ih (index + 1) hrest

/-- None of the calls can be named once more: a call was left alone, or it has an argument with a
name. -/
theorem Naming.not_nameable {calls left : List Call} {insertions : List Edit} {count : Nat}
    (hnaming : Naming l source calls left insertions count) (hleast : 1 ≤ l.least) :
    ∀ call ∈ left, ∀ parameters, ¬ Nameable l source call parameters := by
  induction hnaming with
  | nil => exact fun call hcall => absurd hcall List.not_mem_nil
  | leave hleave _ ih => exact List.forall_mem_cons.2 ⟨hleave, ih⟩
  | @name call parameters _ _ _ _ hnameable _ ih =>
      refine List.forall_mem_cons.2 ⟨fun others hagain => ?_, ih⟩
      have henough := hnameable.enough
      have hmatched := hnameable.matched
      cases harguments : call.arguments with
      | nil =>
          rw [harguments, List.length_nil] at henough
          omega
      | cons a rest =>
          cases parameters with
          | nil => exact hnameable.nonempty rfl
          | cons parameter parameters =>
              have hpositional := hagain.positional (named a parameter) (by simp [harguments])
              cases hpositional.1

theorem pass_of_nameCalls {after : Source} {count : Nat}
    (hcalls : nameCalls source 0 (source.calls.map fun c => (c, namesFor? l source c)) =
      .success count after) :
    pass l source = .success count
      (after, { events := if count = 0 then [] else [namedEvent source.path count] }) := by
  simp only [pass, hcalls]
  rfl

/-- **Naming arguments.**  Take any lookup that names no call without arguments, and a file in which
all arguments start at different offsets, none of them inside a queued edit or where something is
inserted already.  The pass succeeds.  It queues one insertion in front of each argument of each
call that can be named, and nothing else; it counts these calls and leaves the others as they are.
A second pass counts none and changes nothing. -/
theorem pass_exact (hleast : 1 ≤ l.least) (hapart : (offsets source.calls).Nodup)
    (hvacant : ∀ offset ∈ offsets source.calls, source.edits.Vacant offset) :
    ∃ left insertions count, Naming l source source.calls left insertions count ∧
      pass l source = .success count (edited source left insertions,
        { events := if count = 0 then [] else [namedEvent source.path count] }) ∧
      pass l (edited source left insertions) = .success 0 (edited source left insertions, {}) := by
  obtain ⟨left, insertions, count, hnaming, hcalls⟩ :=
    nameCalls_eq (List.nil_append source.calls).symm hapart hvacant
  refine ⟨left, insertions, count, hnaming, pass_of_nameCalls hcalls, ?_⟩
  -- Classes and methods are looked up in what the pass does not change.
  have hnone : ∀ pair ∈ left.map fun c => (c, namesFor? l (edited source left insertions) c),
      pair.2 = none := by
    intro pair hpair
    obtain ⟨call, hcall, rfl⟩ := List.mem_map.1 hpair
    rw [Option.eq_none_iff_forall_ne_some]
    intro parameters hnames
    exact hnaming.not_nameable hleast call hcall parameters (namesFor?_eq_some_iff.1 hnames)
  exact pass_of_nameCalls (nameCalls_of_none 0 hnone)

/-- A class that extends another one, under a name which that one no longer has. -/
def priceClasses : List Declaration :=
  [{ shortName := "Price", space := "", kind := .class_, path := .ofString "Price.php"
     parent := some "Value" },
    { shortName := "Amount", space := "", kind := .class_, path := .ofString "Amount.php"
      methods := [("of", ["units", "rate"])] }]

def priceLookup : Lookup where
  table := ⟨[(Name.key "Price", 0), (Name.key "Amount", 1)], []⟩
  declarations := priceClasses
  registry := some ⟨[⟨"Value", "Amount"⟩]⟩
  least := 2

/-- A static call whose arguments are a static call and a call on an object.  The class is about to
be renamed, also where the first argument starts. -/
def nestedPrices : Source where
  path := .ofString "prices.php"
  content := Text.encodeUtf8 "<?php return Price::of(Price::of($a, $b), $o->at($x, $y));"
  references := [⟨"Price", .bare, ⟨13, 18, by decide⟩, "", none, none, none⟩,
    ⟨"Price", .bare, ⟨23, 28, by decide⟩, "", none, none, none⟩]
  calls := [
    { kind := .static_
      span := ⟨22, 57, by decide⟩
      arguments := [{ span := ⟨23, 40, by decide⟩ }, { span := ⟨42, 56, by decide⟩ }]
      classReference := some 0
      method := some "of" },
    { kind := .static_
      span := ⟨32, 40, by decide⟩
      arguments := [{ span := ⟨33, 35, by decide⟩ }, { span := ⟨37, 39, by decide⟩ }]
      classReference := some 1
      method := some "of" },
    { kind := .method
      span := ⟨48, 56, by decide⟩
      arguments := [{ span := ⟨49, 51, by decide⟩ }, { span := ⟨53, 55, by decide⟩ }]
      method := some "at" }]
  edits := ⟨[⟨⟨13, 18, by decide⟩, "Cost"⟩, ⟨⟨23, 28, by decide⟩, "Cost"⟩]⟩

theorem pass_exact_nestedPrices :
    1 ≤ priceLookup.least ∧
      (offsets nestedPrices.calls).Nodup ∧
      (∀ offset ∈ offsets nestedPrices.calls, nestedPrices.edits.Vacant offset) ∧
      (pass priceLookup nestedPrices).state.1.edits.queue = nestedPrices.edits.queue ++
        [⟨.point 23, "units: "⟩, ⟨.point 42, "rate: "⟩, ⟨.point 33, "units: "⟩,
          ⟨.point 37, "rate: "⟩] ∧
      ∃ left insertions, Naming priceLookup nestedPrices nestedPrices.calls left insertions 2 ∧
        pass priceLookup (edited nestedPrices left insertions) =
          .success 0 (edited nestedPrices left insertions, {}) := by
  have hleast : 1 ≤ priceLookup.least := by decide
  have hapart : (offsets nestedPrices.calls).Nodup := by decide +kernel
  have hvacant : ∀ offset ∈ offsets nestedPrices.calls, nestedPrices.edits.Vacant offset := by
    decide +kernel
  have htwo : (pass priceLookup nestedPrices).result.toOption = some 2 := by decide +kernel
  obtain ⟨left, insertions, count, hnaming, hfirst, hsecond⟩ := pass_exact hleast hapart hvacant
  rw [hfirst] at htwo
  obtain rfl : count = 2 := Option.some.inj htwo
  exact ⟨hleast, hapart, hvacant, by decide +kernel, left, insertions, hnaming, hsecond⟩

end NamedArguments

end Rechristen
