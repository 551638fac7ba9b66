import Rechristen.Yaml.Failure
import Rechristen.Yaml.Token

/-!
# Scanning a configuration file

Whether a text is the key of a mapping is known only when the colon after it is met.  Until then the
place where a key may have begun is remembered, once for each level of brackets, and the tokens that
open the key are put there afterwards.  A key stands on one line and has at most 1024 characters.
-/

namespace Rechristen.Yaml

/-! ## The scanner -/

/-- A place where a key may have begun. -/
structure KeyPlace where
  /-- The number of tokens before it. -/
  tokens : Nat
  /-- What begins here can be nothing but a key. -/
  required : Bool
  index : Nat
  line : Nat
  column : Nat

/-- What is left of the file, where it stands, and what has been seen. -/
structure Scanner where
  rest : List Char
  index : Nat := 0
  line : Nat := 0
  column : Nat := 0
  /-- The number of open brackets. -/
  flow : Nat := 0
  /-- The column of the innermost block. -/
  indent : Int := -1
  /-- The columns of the blocks around it. -/
  outer : List Int := []
  /-- A key may begin here. -/
  keyAllowed : Bool := true
  /-- The places where a key may have begun, by the number of open brackets. -/
  places : List (Nat × KeyPlace) := []
  tokens : List Token := []

namespace Scanner

/-- The character some places ahead. -/
def peek (s : Scanner) (n : Nat) : Char :=
  s.rest.getD n '\x00'

/-- The scanner with the word on whether a key may begin here. -/
def allowKey (s : Scanner) (allowed : Bool) : Scanner :=
  { s with keyAllowed := allowed }

/-- Go one character on. -/
def step (s : Scanner) : Scanner :=
  match s.rest with
  | [] => s
  | c :: rest =>
    let s := { s with rest, index := s.index + 1 }
    if (isBreak c && c != '\r') || (c == '\r' && s.peek 0 != '\n') then
      { s with line := s.line + 1, column := 0 }
    else if c == '\ufeff' then s
    else { s with column := s.column + 1 }

/-- Go some characters on. -/
def advance (s : Scanner) : Nat → Scanner
  | 0 => s
  | n + 1 => s.step.advance n

/-- Go on over the characters of a class. -/
def skip (s : Scanner) (p : Char → Bool) : Scanner :=
  s.advance (s.rest.takeWhile p).length

/-- The line break here, as it counts in a text, and the scanner after it. -/
def lineBreak? (s : Scanner) : Option (Char × Scanner) :=
  match s.rest with
  | [] => none
  | c :: _ =>
    if c == '\r' && s.peek 1 == '\n' then some ('\n', s.advance 2)
    else if c == '\u2028' || c == '\u2029' then some (c, s.step)
    else if isBreak c then some ('\n', s.step)
    else none

/-- Three equal marks that separate documents stand here. -/
def atMark (s : Scanner) (c : Char) : Bool :=
  s.rest.take 3 == [c, c, c] && isGap (s.peek 3)

/-- A mark that separates documents stands here. -/
def atSeparator (s : Scanner) : Bool :=
  s.atMark '-' || s.atMark '.'

/-- The scanner with one more token. -/
def emit (s : Scanner) (t : Token) : Scanner :=
  { s with tokens := s.tokens ++ [t] }

/-- The scanner with a token put among those it has. -/
def insert (s : Scanner) (n : Nat) (t : Token) : Scanner :=
  { s with tokens := s.tokens.take n ++ t :: s.tokens.drop n }

/-- Go on over blanks, comments and line ends.  After a line end a key may begin, except inside
brackets. -/
def toToken (s : Scanner) : Nat → Scanner
  | 0 => s
  | fuel + 1 =>
    let s := s.skip (· == ' ')
    let s := if s.peek 0 == '#' then s.skip (!isBreak ·) else s
    match s.lineBreak? with
    | some (_, s) => (if s.flow = 0 then s.allowKey true else s).toToken fuel
    | none => s

/-! ## Places of keys -/

/-- Forget the places that are on an earlier line or too far back.  It is an error if one of them
had to be a key. -/
def dropStale (s : Scanner) : Except Failure Scanner :=
  let stale := fun (p : Nat × KeyPlace) => p.2.line != s.line || s.index - p.2.index > 1024
  if s.places.any fun p => stale p && p.2.required then .error .malformed
  else .ok { s with places := s.places.filter fun p => !stale p }

/-- Forget the place at this level. -/
def forgetPlace (s : Scanner) : Scanner :=
  { s with places := s.places.filter fun p => p.1 != s.flow }

/-- Forget the place at this level.  It is an error if it had to be a key. -/
def dropPlace (s : Scanner) : Except Failure Scanner :=
  if s.places.any fun p => p.1 == s.flow && p.2.required then .error .malformed
  else .ok s.forgetPlace

/-- Remember that a key may begin here. -/
def savePlace (s : Scanner) : Except Failure Scanner :=
  if !s.keyAllowed then .ok s
  else
    s.dropPlace.map fun s =>
      { s with
        places := s.places ++
          [(s.flow,
            ⟨s.tokens.length, s.flow = 0 && s.indent = s.column, s.index, s.line, s.column⟩)] }

/-! ## Blocks -/

/-- Close the blocks that are indented deeper than a column. -/
def unwind (s : Scanner) (column : Int) : Scanner :=
  if s.flow = 0 then close s column s.outer else s
where
  /-- Close blocks from the innermost outwards. -/
  close (s : Scanner) (column : Int) : List Int → Scanner
    | [] => s
    | indent :: outer =>
      if s.indent > column then
        close (({ s with indent, outer } : Scanner).emit .blockEnd) column outer
      else s

/-- Open a block at a column if it is indented deeper than the innermost one. -/
def openBlock (s : Scanner) (column at_ : Nat) (t : Token) : Scanner :=
  if s.indent < column then
    ({ s with indent := column, outer := s.indent :: s.outer } : Scanner).insert at_ t
  else s

end Scanner

end Rechristen.Yaml
