import Rechristen.Json
import Rechristen.Text.Affix

/-!
# What scalars are

The tag of a node says what kind of value it is.  A plain scalar without a tag may stand for
nothing, a truth value, a number or a point in time; which, is told from how it is written.  A
number may have underscores between its digits, may be written in base two, eight or sixteen, or in
groups of minutes and seconds.
-/

namespace Rechristen.Yaml

/-- The kinds of values. -/
inductive Tag where
  | null
  | truth
  | int
  | float
  | moment
  | text
  /-- Bytes, in base 64. -/
  | binary
  /-- The key of a mapping that is to be merged. -/
  | merge
  /-- The mark for a default value, which is a text as a key only. -/
  | standard
  | sequence
  | mapping
  /-- A mapping of which only the keys count. -/
  | group
  /-- A sequence of mappings with one entry each. -/
  | pairs
  /-- A kind that configuration files do not have. -/
  | foreign
  deriving DecidableEq, Repr

/-- The words for truth values. -/
def truthWords : List (String × Bool) :=
  [("yes", true), ("no", false), ("true", true), ("false", false), ("on", true), ("off", false)]

/-- A word in lower case, capitalised or in upper case. -/
def spellings (word : String) : List String :=
  let upper := String.ofList (word.toList.map Char.toUpper)
  [word, String.ofList (upper.toList.take 1 ++ word.toList.drop 1), upper]

/-- The words for nothing. -/
def nullWords : List String :=
  "" :: "~" :: spellings "null"

/-! ## Numbers -/

/-- What follows a sign, if there is one. -/
def unsigned (cs : List Char) : List Char :=
  match cs with
  | '-' :: rest => rest
  | '+' :: rest => rest
  | _ => cs

/-- A digit of a base, or an underscore. -/
def isDigitOf (base : Nat) (c : Char) : Bool :=
  c == '_' || (Json.hexDigit? c).any (· < base)

/-- Digits with underscores, the first of which is no underscore. -/
def isRun (cs : List Char) : Bool :=
  match cs with
  | [] => false
  | c :: rest => c.isDigit && rest.all (isDigitOf 10)

/-- A group of minutes or seconds: below sixty, in one or two digits. -/
def isGroup (cs : List Char) : Bool :=
  match cs with
  | [a] => a.isDigit
  | [a, b] => '0' ≤ a && a ≤ '5' && b.isDigit
  | _ => false

/-- A text without a sign looks like a whole number. -/
def looksNatural (cs : List Char) : Bool :=
  match cs with
  | ['0'] => true
  | '0' :: 'b' :: ds => !ds.isEmpty && ds.all (isDigitOf 2)
  | '0' :: 'x' :: ds => !ds.isEmpty && ds.all (isDigitOf 16)
  | '0' :: ds => ds.all (isDigitOf 8)
  | _ =>
    match Text.partsOf ':' cs with
    | first :: groups => isRun first && groups.all isGroup
    | [] => false

/-- A text looks like an exponent, which has a sign, or is empty. -/
def looksPower (cs : List Char) : Bool :=
  match cs with
  | [] => true
  | e :: s :: ds =>
    (e == 'e' || e == 'E') && (s == '-' || s == '+') && !ds.isEmpty && ds.all Char.isDigit
  | _ => false

/-- A text without a sign looks like a fraction: it has a point. -/
def looksFraction (signed : Bool) (cs : List Char) : Bool :=
  match cs.dropWhile (· != '.') with
  | [] => false
  | _ :: after =>
    let part := after.takeWhile (isDigitOf 10)
    let rest := after.drop part.length
    match Text.partsOf ':' (cs.takeWhile (· != '.')) with
    | [whole] => ((whole.isEmpty && !signed && isRun part) || isRun whole) && looksPower rest
    | first :: groups => isRun first && groups.all isGroup && rest.isEmpty
    | [] => false

/-- A text looks like a double. -/
def looksFloat (cs : List Char) : Bool :=
  let ds := unsigned cs
  let signed := ds.length < cs.length
  let word := String.ofList ds
  [".inf", ".Inf", ".INF"].contains word ||
    (!signed && [".nan", ".NaN", ".NAN"].contains word) || looksFraction signed ds

/-! ## Points in time -/

/-- Digits at the start, as many as a range allows, and what follows them. -/
def digitsBetween? (least most : Nat) (cs : List Char) : Option (Nat × List Char) :=
  let ds := (cs.take most).takeWhile Char.isDigit
  if ds.length < least then none else some (Json.digitsValue ds, cs.drop ds.length)

/-- What follows a mark at the start. -/
def after? (mark : Char) (cs : List Char) : Option (List Char) :=
  match cs with
  | c :: rest => if c == mark then some rest else none
  | [] => none

/-- A date, and the time of day if there is one. -/
structure Moment where
  year : Nat
  month : Nat
  day : Nat
  /-- Hour, minute and second. -/
  clock : Option (Nat × Nat × Nat) := none
  /-- The difference to world time, in seconds. -/
  zone : Option Int := none
  deriving DecidableEq, Repr

namespace Moment

/-- The date at the start, with at least so many digits for month and day. -/
def date? (least : Nat) (cs : List Char) : Option (Moment × List Char) := do
  let (year, cs) ← digitsBetween? 4 4 cs
  let (month, cs) ← digitsBetween? least 2 (← after? '-' cs)
  let (day, cs) ← digitsBetween? least 2 (← after? '-' cs)
  return ({ year, month, day }, cs)

/-- The blanks and tabs at the start taken away. -/
def skipBlanks (cs : List Char) : List Char :=
  cs.dropWhile fun c => c == ' ' || c == '\t'

/-- The difference to world time at the end of a point in time, or nothing. -/
def zone? (cs : List Char) : Option (Option Int) :=
  if cs.isEmpty then some none
  else
    match skipBlanks cs with
    | ['Z'] => some (some 0)
    | sign :: ds =>
      if sign != '-' && sign != '+' then none
      else do
        let (hours, rest) ← digitsBetween? 1 2 ds
        let minutes ←
          match rest with
          | [] => some 0
          | ':' :: ds =>
            match digitsBetween? 2 2 ds with
            | some (n, []) => some n
            | _ => none
          | _ => none
        let seconds : Int := hours * 3600 + minutes * 60
        return some (if sign == '-' then -seconds else seconds)
    | [] => none

/-- The time of day after a date. -/
def withClock? (date : Moment) (cs : List Char) : Option Moment := do
  let (hour, cs) ← digitsBetween? 1 2 cs
  let (minute, cs) ← digitsBetween? 2 2 (← after? ':' cs)
  let (second, cs) ← digitsBetween? 2 2 (← after? ':' cs)
  let cs :=
    match cs with
    | '.' :: rest => rest.dropWhile Char.isDigit
    | _ => cs
  return { date with clock := some (hour, minute, second), zone := ← zone? cs }

/-- The point in time that a text writes.  Month and day have two digits unless a time of day
follows or `loose` allows fewer. -/
def ofChars? (loose : Bool) (cs : List Char) : Option Moment :=
  match date? (if loose then 1 else 2) cs with
  | some (date, []) => some date
  | _ =>
    match date? 1 cs with
    | some (date, c :: rest) =>
      if c == 'T' || c == 't' then date.withClock? rest
      else if c == ' ' || c == '\t' then date.withClock? (skipBlanks rest)
      else none
    | _ => none

end Moment

/-! ## Tags -/

namespace Tag

/-- Characters without a line end behind them, which does not count unless it stands alone. -/
def withoutLineEnd (cs : List Char) : List Char :=
  if cs.getLast? = some '\n' && cs.length ≠ 1 then cs.dropLast else cs

/-- The tag of a plain scalar. -/
def ofPlain (written : Text.Codes) : Tag :=
  let cs := withoutLineEnd written.chars
  let text := String.ofList cs
  if text == "<<" then merge
  else if text == "=" then standard
  else if nullWords.contains text then null
  else if (truthWords.flatMap fun w => spellings w.1).contains text then truth
  else if looksFloat cs then float
  else if looksNatural (unsigned cs) then int
  else if (Moment.ofChars? false cs).isSome then moment
  else Tag.text

/-- The tag with a name. -/
def ofName (name : String) : Tag :=
  let known := [("null", null), ("bool", truth), ("int", int), ("float", float),
    ("timestamp", moment), ("str", Tag.text), ("binary", binary), ("merge", merge),
    ("value", standard), ("seq", sequence), ("map", mapping), ("set", group), ("omap", pairs),
    ("pairs", pairs)]
  ((known.find? fun (word, _) => "tag:yaml.org,2002:" ++ word == name).map Prod.snd).getD foreign

end Tag

end Rechristen.Yaml
