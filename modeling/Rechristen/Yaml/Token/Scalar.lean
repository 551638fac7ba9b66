import Rechristen.Json
import Rechristen.Yaml.Token.Scanner

/-!
# Scalars in a configuration file

A scalar is plain, quoted, or a block of lines.  A line break inside a plain or quoted scalar is a
blank, and those after it are kept.  The lines of a block are kept, or folded like those of a quoted
scalar.
-/

namespace Rechristen.Yaml.Scanner

/-! ## Plain scalars -/

/-- A line break and those after it as they count in a text: a single one is a blank. -/
def folded (first : Char) (more : List Char) : List Char :=
  if first ≠ '\n' then first :: more else if more.isEmpty then [' '] else more

/-- The length of the part of a plain scalar that has no gap. -/
def plainLength (flow : Bool) : List Char → Nat
  | [] => 0
  | c :: rest =>
    let next := rest.headD '\x00'
    if isGap c || (c == ':' && (isGap next || (flow && isFlowMark next))) ||
        (flow && (isFlowMark c || c == '?')) then 0
    else plainLength flow rest + 1

/-- The line breaks after the first one in a gap of a plain scalar, none if a mark that separates
documents is met. -/
def plainBreaks (s : Scanner) (breaks : List Char) : Nat → Scanner × Option (List Char)
  | 0 => (s, some breaks)
  | fuel + 1 =>
    let s := s.skip (· == ' ')
    match s.lineBreak? with
    | none => (s, some breaks)
    | some (c, s) =>
      if s.atSeparator then (s, none) else plainBreaks s (breaks ++ [c]) fuel

/-- The gap after a part of a plain scalar; it is empty if the scalar ends here. -/
def plainGap (s : Scanner) : Scanner × List Char :=
  let blanks := s.rest.takeWhile (· == ' ')
  let s := s.advance blanks.length
  match s.lineBreak? with
  | none => (s, blanks)
  | some (first, s) =>
    let s := s.allowKey true
    if s.atSeparator then (s, [])
    else
      match s.plainBreaks [] (s.rest.length + 1) with
      | (s, none) => (s, [])
      | (s, some more) => (s, folded first more)

/-- The text of a plain scalar.  It goes on over gaps, as long as it is indented deeper than the
block it stands in. -/
def plainText (s : Scanner) (gap text : List Char) : Nat → Scanner × List Char
  | 0 => (s, text)
  | fuel + 1 =>
    if s.peek 0 == '#' then (s, text)
    else
      let part := s.rest.take (plainLength (s.flow > 0) s.rest)
      if part.isEmpty then (s, text)
      else
        let text := text ++ gap ++ part
        let (s, gap) := ((s.advance part.length).allowKey false).plainGap
        if gap.isEmpty || s.peek 0 == '#' || (s.flow = 0 && s.column < s.indent + 1) then (s, text)
        else plainText s gap text fuel

/-! ## Quoted scalars -/

/-- The line breaks after the first one in a quoted scalar.  A mark that separates documents is an
error there. -/
def quotedBreaks (s : Scanner) (breaks : List Char) : Nat → Except Failure (Scanner × List Char)
  | 0 => .error .malformed
  | fuel + 1 =>
    if s.atSeparator then .error .malformed
    else
      let s := s.skip fun c => c == ' ' || c == '\t'
      match s.lineBreak? with
      | none => .ok (s, breaks)
      | some (c, s) => quotedBreaks s (breaks ++ [c]) fuel

/-- What a letter after a backslash stands for. -/
def escapes : List (Char × Nat) :=
  [('0', 0x0), ('a', 0x7), ('b', 0x8), ('t', 0x9), ('\t', 0x9), ('n', 0xa), ('v', 0xb), ('f', 0xc),
    ('r', 0xd), ('e', 0x1b), (' ', 0x20), ('"', 0x22), ('\\', 0x5c), ('/', 0x2f), ('N', 0x85),
    ('_', 0xa0), ('L', 0x2028), ('P', 0x2029)]

/-- The number of hexadecimal digits after a letter. -/
def codes : List (Char × Nat) :=
  [('x', 2), ('u', 4), ('U', 8)]

/-- The text behind a backslash. -/
def escape (s : Scanner) : Except Failure (Scanner × Text.Codes) :=
  let c := s.peek 0
  match escapes.lookup c, codes.lookup c, s.lineBreak? with
  | some n, _, _ => .ok (s.step, [n])
  | _, some width, _ =>
    let s := s.step
    match Json.hexNumber? (s.rest.take width) with
    | some n =>
      if s.rest.length < width then .error .malformed
      else if n > 0x10ffff then .error (.noCharacter n)
      else .ok (s.advance width, [n])
    | none => .error .malformed
  | _, _, some (_, s) =>
    (s.quotedBreaks [] (s.rest.length + 1)).map fun (s, breaks) => (s, breaks.map Char.toNat)
  | _, _, _ => .error .malformed

/-- The gap at the scanner inside a quoted scalar. -/
def quotedGap (s : Scanner) : Except Failure (Scanner × List Char) :=
  let blanks := s.rest.takeWhile fun c => c == ' ' || c == '\t'
  let s := s.advance blanks.length
  match s.lineBreak? with
  | none => .ok (s, blanks)
  | some (first, s) =>
    (s.quotedBreaks [] (s.rest.length + 1)).map fun (s, more) => (s, folded first more)

/-- The text of a quoted scalar, up to its closing quote. -/
def quotedText (s : Scanner) (quote : Char) (text : Text.Codes) :
    Nat → Except Failure (Scanner × Text.Codes)
  | 0 => .error .malformed
  | fuel + 1 =>
    match s.rest with
    | [] => .error .malformed
    | c :: _ =>
      if c == quote then
        if quote == '\'' && s.peek 1 == '\'' then
          quotedText (s.advance 2) quote (text ++ [quote.toNat]) fuel
        else .ok (s.step, text)
      else if c == '\\' && quote == '"' then
        match s.step.escape with
        | .error f => .error f
        | .ok (s, part) => quotedText s quote (text ++ part) fuel
      else if isGap c then
        match s.quotedGap with
        | .error f => .error f
        | .ok (s, gap) => quotedText s quote (text ++ gap.map Char.toNat) fuel
      else quotedText s.step quote (text ++ [c.toNat]) fuel

/-! ## Blocks of lines -/

/-- What is done with the line breaks at the end of a block. -/
inductive Chomping where
  /-- All of them go. -/
  | strip
  /-- The first of them stays. -/
  | clip
  /-- All of them stay. -/
  | keep
  deriving DecidableEq

/-- The word on chomping here, if there is one. -/
def chomping? (s : Scanner) : Option Chomping :=
  if s.peek 0 == '+' then some .keep else if s.peek 0 == '-' then some .strip else none

/-- The word on indentation here, if there is one. -/
def increment? (s : Scanner) : Option Nat :=
  if (s.peek 0).isDigit then some ((s.peek 0).toNat - '0'.toNat) else none

/-- The words on chomping and indentation at the head of a block, in either order.  The indentation
is not zero. -/
def blockHead (s : Scanner) : Except Failure (Scanner × Chomping × Option Nat) :=
  let (s, chomping?, increment?) :=
    match s.chomping? with
    | some chomping =>
      let s := s.step
      match s.increment? with
      | some n => (s.step, some chomping, some n)
      | none => (s, some chomping, none)
    | none =>
      match s.increment? with
      | none => (s, none, none)
      | some n =>
        let s := s.step
        match s.chomping? with
        | some chomping => (s.step, some chomping, some n)
        | none => (s, none, some n)
  if increment? = some 0 || (s.peek 0 != ' ' && s.peek 0 != '\x00' && !isBreak (s.peek 0)) then
    .error .malformed
  else .ok (s, chomping?.getD .clip, increment?)

/-- Go on over the rest of a line, which may hold nothing but a comment. -/
def emptyRest (s : Scanner) : Except Failure Scanner :=
  let s := s.skip (· == ' ')
  let s := if s.peek 0 == '#' then s.skip (!isBreak ·) else s
  match s.lineBreak? with
  | some (_, s) => .ok s
  | none => if s.rest.isEmpty then .ok s else .error .malformed

/-- The empty lines at the start of a block, and the deepest column they reach. -/
def leadingLines (s : Scanner) (breaks : List Char) (deepest : Nat) :
    Nat → Scanner × List Char × Nat
  | 0 => (s, breaks, deepest)
  | fuel + 1 =>
    if s.peek 0 == ' ' then
      let s := s.step
      leadingLines s breaks (max deepest s.column) fuel
    else
      match s.lineBreak? with
      | some (c, s) => leadingLines s (breaks ++ [c]) deepest fuel
      | none => (s, breaks, deepest)

/-- Go on over blanks, up to a column. -/
def toColumn (s : Scanner) (column : Nat) : Scanner :=
  s.advance ((s.rest.takeWhile (· == ' ')).length.min (column - s.column))

/-- The empty lines before the next line of a block. -/
def emptyLines (s : Scanner) (column : Nat) (breaks : List Char) : Nat → Scanner × List Char
  | 0 => (s, breaks)
  | fuel + 1 =>
    let s := s.toColumn column
    match s.lineBreak? with
    | some (c, s) => emptyLines s column (breaks ++ [c]) fuel
    | none => (s, breaks)

/-- The lines of a block from its column on: the text, the line break after the last line, and the
empty lines after it. -/
def blockLines (s : Scanner) (folds : Bool) (column : Nat) (breaks text : List Char) :
    Nat → Scanner × List Char × List Char × List Char
  | 0 => (s, text, [], breaks)
  | fuel + 1 =>
    let isBlank := fun (c : Char) => c == ' ' || c == '\t'
    let flush := !isBlank (s.peek 0)
    let line := s.rest.takeWhile (!isBreak ·)
    let text := text ++ breaks ++ line
    let s := s.advance line.length
    let (s, ending) :=
      match s.lineBreak? with
      | some (c, s) => (s, [c])
      | none => (s, [])
    let (s, breaks) := s.emptyLines column [] (s.rest.length + 1)
    if s.column = column && !s.rest.isEmpty then
      let joint :=
        if folds && ending == ['\n'] && flush && !isBlank (s.peek 0) then
          if breaks.isEmpty then [' '] else []
        else ending
      blockLines s folds column breaks (text ++ joint) fuel
    else (s, text, ending, breaks)

/-- The text of a block, from its head on. -/
def blockText (s : Scanner) (folds : Bool) : Except Failure (Scanner × List Char) :=
  match s.blockHead with
  | .error f => .error f
  | .ok (s, chomping, increment?) =>
    s.emptyRest.map fun s =>
      let fuel := s.rest.length + 1
      let least := (s.indent + 1).toNat.max 1
      let (s, breaks, column) :=
        match increment? with
        | none =>
          let (s, breaks, deepest) := s.leadingLines [] 0 fuel
          (s, breaks, max least deepest)
        | some n =>
          let column := least + n - 1
          let (s, breaks) := s.emptyLines column [] fuel
          (s, breaks, column)
      let (s, text, ending, breaks) :=
        if s.column = column && !s.rest.isEmpty then s.blockLines folds column breaks [] fuel
        else (s, [], [], breaks)
      match chomping with
      | .strip => (s, text)
      | .clip => (s, text ++ ending)
      | .keep => (s, text ++ ending ++ breaks)

end Rechristen.Yaml.Scanner
