import Rechristen.Proofs.Pass.Conflicts
import Rechristen.Proofs.Session.Conflicts
import Rechristen.Proofs.Session.Origins
import Rechristen.Proofs.Sites.Places

/-!
# A file is edited without conflicts

A file goes through four hands: its declarations are renamed, its references are fixed, its
arguments are named and its argument lists are laid out.  All of them queue edits for the same file,
and none knows of the others.  If the tree of the file is well formed, they never get into each
other's way (`no_conflicts`).

The edits are made where the sites of the tree have their places (`Sites.reads_extract`), and these
places are compatible (`Sites.compatible`).

That a qualified name must not be a list of arguments cannot be left out.  Such a name is respelled
as a whole, and an argument of the list that is named afterwards starts inside it
(`conflict_qualifiedList`).
-/

namespace Rechristen

/-- The sites of a well-formed tree fit into a file without edits. -/
theorem Source.fits_withSites {source : Source} (hfresh : source.edits = {}) {root : Node}
    {sites : Sites} (first : DeclarationId)
    (hreferences : ∀ r ∈ sites.references, Sites.ReferencePlaced root.children r)
    (hcalls : ∀ c ∈ sites.calls, Sites.CallPlaced root.children c) :
    (source.withSites sites first).Fits (Sites.Spot root.children)
      (Sites.Region root.children) where
  queued q hq := by
    have hedits : (source.withSites sites first).edits = {} := hfresh
    rw [hedits] at hq
    cases hq
  references := hreferences
  calls := hcalls

namespace Session

/-- The name of a declaration of the file is a spot. -/
theorem spot_of_nameSpans {spot : ByteSpan → Prop} {s : Session} {source : Source} {sites : Sites}
    (hplaced : ∀ d ∈ sites.declarations, ∀ span ∈ d.nameSpan, spot span)
    {earlier later : List Declaration}
    (hdeclarations : s.declarations = earlier ++ sites.declarations ++ later) {id : DeclarationId}
    (hid : id ∈ (source.withSites sites earlier.length).declarations) :
    ∀ span ∈ s.nameSpans[id]?.join, spot span := by
  intro span hspan
  obtain ⟨hle, hlt⟩ := List.mem_range'_1.1 hid
  rw [nameSpans, hdeclarations, List.getElem?_map,
    List.getElem?_append_left (by rw [List.length_append]; omega),
    List.getElem?_append_right hle] at hspan
  cases hfound : sites.declarations[id - earlier.length]? with
  | none => simp [hfound] at hspan
  | some d => exact hplaced d (List.mem_of_getElem? hfound) span (by simpa [hfound] using hspan)

/-- **No conflicts.**  Take a file with a well-formed tree and nothing edited yet.  Its sites can be
read.  Whatever declarations of the file are then asked to be renamed, in a session that may know
other files as well, and whatever registry, parameters and style are used afterwards to fix the
references, to name the arguments and to lay the lists out: none of it fails because edits
overlap. -/
theorem no_conflicts {source : Source} (hfresh : source.edits = {}) {root : Node}
    (hroot : root.WellFormed) :
    ∃ sites, Sites.extract source root = .ok sites ∧
      ∀ (s : Session) (earlier later : List Declaration),
        s.declarations = earlier ++ sites.declarations ++ later →
        ∀ requests : List Request,
          (∀ r ∈ requests, r.id ∈ (source.withSites sites earlier.length).declarations) →
          (∀ r : Request, r.id ∈ (source.withSites sites earlier.length).declarations →
            (serve (serveAll (s, source.withSites sites earlier.length) requests) r).conflicts =
              false) ∧
          ∀ (registry : Registry) (l : NamedArguments.Lookup) (style : ArgumentLayout.Style),
            let fixed := References.fix registry
              (serveAll (s, source.withSites sites earlier.length) requests).2
            let named := NamedArguments.pass l fixed.state.1
            let laid := ArgumentLayout.pass style named.state.1
            fixed.conflicts = false ∧ named.conflicts = false ∧ laid.conflicts = false := by
  obtain ⟨sites, hextract, hdeclared, hreferences, hcalls⟩ := Sites.reads_extract source hroot
  have hcompatible := Sites.compatible (fun n hn => hroot.child hn) hroot.proper.inOrder
  refine ⟨sites, hextract, fun s earlier later hdeclarations requests hrequests => ?_⟩
  have hspots {id : DeclarationId}
      (hid : id ∈ (source.withSites sites earlier.length).declarations) :
      ∀ span ∈ s.nameSpans[id]?.join, Sites.Spot root.children span :=
    spot_of_nameSpans hdeclared hdeclarations hid
  -- Whether or not a request fails, it leaves a file behind in which all is at its place.
  have hstart := Source.fits_withSites hfresh earlier.length hreferences hcalls
  have hfrom : (s, source.withSites sites earlier.length).1.nameSpans = s.nameSpans := rfl
  obtain ⟨hspans, hfits⟩ := fits_serveAll hcompatible hfrom hstart
    fun r hr => hspots (hrequests r hr)
  refine ⟨fun r hr => ?_, fun registry l style => ?_⟩
  · exact (calm_apply hcompatible hspans hfits (hspots hr) r.newName r.policy).calm
  · have hfixed := References.calm_fix hcompatible hfits registry
    have hnamed := NamedArguments.calm_pass hcompatible hfixed.left l
    exact ⟨hfixed.calm, hnamed.calm, (ArgumentLayout.calm_pass hcompatible hnamed.left style).calm⟩

/-! ### Calls within calls, and an import with an alias -/

/-- A part of the language from one offset to another. -/
def part (kind : String) (start stop : Int) (children : List Node) (field : Option String := none) :
    Node :=
  .mk kind true false start stop field children

/-- A class whose constructor has two parameters, from an offset on. -/
def pairClass (start : Int) : Node :=
  part "class_declaration" start (start + 36)
    [part "name" (start + 6) (start + 7) [] "name",
      part "declaration_list" (start + 7) (start + 36)
        [part "method_declaration" (start + 8) (start + 35)
          [part "name" (start + 17) (start + 28) [] "name",
            part "formal_parameters" (start + 28) (start + 35)
              [part "simple_parameter" (start + 29) (start + 31)
                  [part "variable_name" (start + 29) (start + 31) [] "name"],
                part "simple_parameter" (start + 32) (start + 34)
                  [part "variable_name" (start + 32) (start + 34) [] "name"]] "parameters"]] "body"]

/-- A file with the text. -/
def fileOfText (text : String) : Source :=
  { path := ⟨"", ["R.php"]⟩, content := Text.encodeUtf8 text }

def pairs : Source :=
  fileOfText "use N\\B as A;class R{function __construct($x,$y)}new R(new \\R(1,2),3)"

def pairsTree : Node :=
  part "program" 0 69
    [part "namespace_use_declaration" 0 13
        [part "namespace_use_clause" 4 12
          [part "qualified_name" 4 7 [],
            part "namespace_aliasing_clause" 8 12 [part "name" 11 12 []]]],
      pairClass 13,
      part "object_creation_expression" 49 69
        [part "name" 53 54 [],
          part "arguments" 54 69
            [part "argument" 55 66
                [part "object_creation_expression" 55 66
                  [part "qualified_name" 59 61 [],
                    part "arguments" 61 66
                      [part "argument" 62 63 [], part "argument" 64 65 []] "arguments"]],
              part "argument" 67 68 []] "arguments"]]

/-- The sites read off a tree; none if it cannot be read. -/
def sitesOf (source : Source) (root : Node) : Sites :=
  (Sites.extract source root).toOption.getD {}

/-- Rename the first declaration. -/
def renameFirst : Request :=
  ⟨0, some "S", Policy.abstractBeginning⟩

/-- A new session for a file, and the file, after its first declaration was renamed. -/
def renamedFirst (source : Source) (root : Node) : Session × Source :=
  serveAll (opened false .firstWins (sitesOf source root).declarations,
    source.withSites (sitesOf source root) 0) [renameFirst]

/-- The references fixed afterwards. -/
def fixedAfter (left : Session × Source) : Attempt (Source × Notes) Nat :=
  References.fix left.1.registry left.2

/-- The arguments named afterwards. -/
def namedAfter (left : Session × Source) : Attempt (Source × Notes) Nat :=
  NamedArguments.pass ⟨left.1.table, left.1.declarations, some left.1.registry, 2⟩
    (fixedAfter left).state.1

/-- The lists laid out afterwards. -/
def laidAfter (left : Session × Source) : Attempt (Source × Notes) Nat :=
  ArgumentLayout.pass ⟨2, "    "⟩ (namedAfter left).state.1

theorem no_conflicts_pairs :
    pairs.edits = {} ∧ pairsTree.WellFormed ∧
    (fixedAfter (renamedFirst pairs pairsTree)).conflicts = false ∧
    (namedAfter (renamedFirst pairs pairsTree)).conflicts = false ∧
    (laidAfter (renamedFirst pairs pairsTree)).conflicts = false ∧
    (namedAfter (renamedFirst pairs pairsTree)).state.1.editCount = 7 := by
  have hwell : pairsTree.WellFormed := by decide +kernel
  have hfirst : 0 < (sitesOf pairs pairsTree).declarations.length := by decide +kernel
  obtain ⟨sites, hextract, hall⟩ := no_conflicts (show pairs.edits = {} from rfl) hwell
  have hsites : sites = sitesOf pairs pairsTree := by
    rw [sitesOf, hextract]
    rfl
  subst hsites
  have hown : ∀ r ∈ [renameFirst],
      r.id ∈ (pairs.withSites (sitesOf pairs pairsTree) 0).declarations := by
    intro r hr
    rw [List.mem_singleton.1 hr]
    exact List.mem_range'_1.2 ⟨Nat.le_refl 0, Nat.lt_of_lt_of_eq hfirst (Nat.zero_add _).symm⟩
  obtain ⟨-, hpasses⟩ := hall (opened false .firstWins (sitesOf pairs pairsTree).declarations) [] []
    (by rw [opened_declarations, List.nil_append, List.append_nil]) [renameFirst] hown
  obtain ⟨hfixed, hnamed, hlaid⟩ := hpasses (renamedFirst pairs pairsTree).1.registry
    ⟨(renamedFirst pairs pairsTree).1.table, (renamedFirst pairs pairsTree).1.declarations,
      some (renamedFirst pairs pairsTree).1.registry, 2⟩ ⟨2, "    "⟩
  exact ⟨rfl, hwell, hfixed, hnamed, hlaid, by decide +kernel⟩

/-! ### A qualified name in the place of an argument list -/

def qualifiedList : Source :=
  fileOfText "class R{function __construct($x,$y)}new \\R"

def qualifiedListTree : Node :=
  part "program" 0 42
    [pairClass 0,
      part "object_creation_expression" 36 42
        [part "qualified_name" 40 42 [part "argument" 40 41 [], part "argument" 41 42 []]
          "arguments"]]

/-- The name is respelled as a whole, and its second half is an argument to be named. -/
theorem conflict_qualifiedList :
    (∀ m ∈ qualifiedListTree.preorder, m.Regular) ∧ qualifiedList.edits = {} ∧
    (Sites.extract qualifiedList qualifiedListTree).toOption.isSome ∧
    (namedAfter (renamedFirst qualifiedList qualifiedListTree)).conflicts = true := by
  refine ⟨?_, rfl, ?_, ?_⟩
  · decide +kernel
  · decide +kernel
  · decide +kernel

end Session

end Rechristen
