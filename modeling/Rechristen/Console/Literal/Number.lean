import Rechristen.Text.Numeral

/-!
# Numbers as literals

A number is written with the usual digits, between which single underscores may stand: a whole
number in base ten or, behind its mark, in another base, or a number with a point or an exponent.
A letter `j` behind a number in base ten makes it imaginary.
-/

namespace Rechristen.Literal

/-- The characters that a word or a number could go on with. -/
def goesOn (c : Char) : Bool :=
  c.isAlphanum || c == '_' || 0x7f < c.toNat

/-- The digits of a base at the start, and what follows them. -/
def digits? (base : Nat) (cs : List Char) : Option (List Char × List Char) :=
  let run := cs.takeWhile fun c => c == '_' || Text.Numeral.isDigitOf base c
  if Text.Numeral.wellSpaced run then some (run.filter (· != '_'), cs.drop run.length) else none

/-- What follows a number whose mark tells the base. -/
def based? (base : Nat) (cs : List Char) : Option (List Char) := do
  let (ds, rest) ← digits? base cs
  if ds.isEmpty then none else some rest

/-- The digits behind a point, if there is one. -/
def part? (cs : List Char) : Option (Option (List Char) × List Char) :=
  match cs with
  | '.' :: rest => (digits? 10 rest).map fun (ds, rest) => (some ds, rest)
  | _ => some (none, cs)

/-- Whether there is an exponent, which has digits, and what follows it. -/
def exponent? (cs : List Char) : Option (Bool × List Char) :=
  match cs with
  | e :: rest =>
    if e == 'e' || e == 'E' then do
      let (ds, rest) ← digits? 10 (Text.Numeral.signed rest).2
      if ds.isEmpty then none else some (true, rest)
    else some (false, cs)
  | [] => some (false, [])

/-- Whether a number is imaginary, and what follows it. -/
def imaginary (cs : List Char) : Bool × List Char :=
  match cs with
  | c :: rest => if c == 'j' || c == 'J' then (true, rest) else (false, cs)
  | [] => (false, [])

/-- Digits of a whole number: no zero stands in front of others, and there are not too many. -/
def isWhole (ds : List Char) : Bool :=
  if ds.head? = some '0' then ds.all (· == '0') else ds.length ≤ Text.Numeral.mostDigits

/-- Read a number in base ten: whether it is imaginary, and what follows it. -/
def decimal? (cs : List Char) : Option (Bool × List Char) := do
  let (before, rest) ← digits? 10 cs
  let (part, rest) ← part? rest
  if before.isEmpty && (part.getD []).isEmpty then none
  else
    let (raised, rest) ← exponent? rest
    let (unreal, rest) := imaginary rest
    if part.isSome || raised || unreal || isWhole before then some (unreal, rest) else none

/-- Read a number: whether it is imaginary, and what follows it.  No word goes on behind it. -/
def number? (cs : List Char) : Option (Bool × List Char) := do
  let read ← match cs with
    | '0' :: m :: _ =>
      match [2, 8, 16].find? fun base => Text.Numeral.markOf? base == some m.toLower with
      | some base => (based? base (Text.Numeral.withoutMark base cs)).map (false, ·)
      | none => decimal? cs
    | _ => decimal? cs
  if read.2.head?.any goesOn then none else some read

end Rechristen.Literal
