import Rechristen.Pass

/-!
# Laying arguments out

An argument list on one line that names an argument is laid out with one argument on each line.
Inner lists are laid out first; an outer list takes them over as they stand, one level deeper.
-/

namespace Rechristen

namespace ArgumentLayout

/-- How lists are laid out. -/
structure Style where
  /-- The fewest arguments of a list that is laid out. -/
  least : Nat
  /-- One level of indentation. -/
  indent : String

/-- The list of a call is to be laid out. -/
def isEligible (style : Style) (call : Call) : Bool :=
  !call.multiline && !call.hasComments && decide (style.least ≤ call.arguments.length) &&
    call.arguments.any Argument.isNamed

/-- The calls to be laid out with their places among the calls, shortest list first. -/
def eligible (style : Style) (calls : List Call) : List (Call × Nat) :=
  (calls.zipIdx.filter fun c => isEligible style c.1).mergeSort fun a b =>
    a.1.span.length ≤ b.1.span.length

/-- The line of one argument. -/
def lineOf (style : Style) (call : Call) (text : String) : String :=
  call.lineIndent ++ style.indent ++ Text.replaceChar '\n' ("\n" ++ style.indent) text

/-- The texts of arguments with the edits inside them applied. -/
def argumentTexts (source : Source) : List Argument → Except Failure (List String)
  | [] => .ok []
  | a :: rest =>
    match source.renderRange a.span, argumentTexts source rest with
    | .ok text, .ok texts => .ok (text :: texts)
    | .error cause, _ => .error cause
    | _, .error cause => .error cause

/-- An argument list laid out. -/
def layout (style : Style) (call : Call) (texts : List String) : String :=
  "(\n" ++ ",\n".intercalate (texts.map (lineOf style call)) ++ "\n" ++ call.lineIndent ++ ")"

/-- Lay one call out. -/
def layOut (style : Style) (source : Source) (call : Call) (index : Nat) : Attempt Source Unit :=
  match argumentTexts source call.arguments with
  | .error cause => .failure cause source
  | .ok texts =>
    (source.replaceRegion call.span (layout style call texts)).andThen fun _ source =>
      .success () { source with calls := source.calls.modify index ({ · with multiline := true }) }

/-- Lay calls out, one after the other. -/
def layOutAll (style : Style) (source : Source) : List (Call × Nat) → Attempt Source Nat
  | [] => .success 0 source
  | (call, index) :: rest =>
    (layOut style source call index).andThen fun _ source =>
      (layOutAll style source rest).map (1 + ·)

/-- What is reported of a file with lists laid out. -/
def splitEvent (path : Path) (count : Nat) : Event :=
  ⟨.debug, "arguments_split", [("file", .text path.toString), ("calls", .int count)]⟩

/-- Lay the argument lists of a file out. -/
def pass (style : Style) : Pass := fun source =>
  let attempt := layOutAll style source (eligible style source.calls)
  match attempt.result with
  | .ok count =>
    attempt.into fun s =>
      (s, { events := if count = 0 then [] else [splitEvent source.path count] })
  | .error _ => attempt.into (·, {})

end ArgumentLayout

end Rechristen
