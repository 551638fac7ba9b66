import Rechristen.Datum
import Rechristen.Text.Numeral

/-!
# Data in JSON

Settings in environment variables are written in JSON, and so are events for programs.  Besides the
standard's numbers the words for what is not a number and for the infinities are read.  A name that
is given twice keeps its first place and its last value.
-/

namespace Rechristen.Json

/-! ## Reading texts -/

/-- The characters that may stand between the parts of a text. -/
def isSpace (c : Char) : Bool :=
  c == ' ' || c == '\t' || c == '\n' || c == '\r'

/-- A text without the space at its start. -/
def skip (cs : List Char) : List Char :=
  cs.dropWhile isSpace

/-- The value of a hexadecimal digit. -/
def hexDigit? (c : Char) : Option Nat :=
  if c.isDigit then some (c.toNat - '0'.toNat)
  else if 'a' ≤ c && c ≤ 'f' then some (c.toNat - 'a'.toNat + 10)
  else if 'A' ≤ c && c ≤ 'F' then some (c.toNat - 'A'.toNat + 10)
  else none

/-- The number written in hexadecimal digits. -/
def hexNumber? (cs : List Char) : Option Nat :=
  cs.foldlM (fun n c => (hexDigit? c).map (n * 16 + ·)) 0

/-- What a letter after a backslash stands for. -/
def escaped? (c : Char) : Option Nat :=
  match c with
  | '"' => some 0x22
  | '\\' => some 0x5c
  | '/' => some 0x2f
  | 'b' => some 0x8
  | 'f' => some 0xc
  | 'n' => some 0xa
  | 'r' => some 0xd
  | 't' => some 0x9
  | _ => none

/-- The code units of a quoted text, up to its closing quote, and what follows. -/
def units : List Char → Option (List Nat × List Char)
  | [] => none
  | '"' :: rest => some ([], rest)
  | '\\' :: 'u' :: a :: b :: c :: d :: rest =>
    match hexNumber? [a, b, c, d], units rest with
    | some n, some (ns, after) => some (n :: ns, after)
    | _, _ => none
  | '\\' :: c :: rest =>
    match escaped? c, units rest with
    | some n, some (ns, after) => some (n :: ns, after)
    | _, _ => none
  | c :: rest =>
    if c.toNat < 0x20 || c == '\\' then none
    else
      match units rest with
      | some (ns, after) => some (c.toNat :: ns, after)
      | none => none

/-- A text after its opening quote, and what follows it.  Two halves that belong together are one
character. -/
def text (cs : List Char) : Option (Datum × List Char) :=
  (units cs).map fun (ns, rest) => (.ofCodes (Text.Codes.paired ns), rest)

/-! ## Reading numbers and words -/

/-- The number that digits write. -/
def digitsValue (cs : List Char) : Nat :=
  cs.foldl (fun n c => n * 10 + (c.toNat - '0'.toNat)) 0

/-- The digits at the start. -/
def digits (cs : List Char) : List Char × List Char :=
  (cs.takeWhile Char.isDigit, cs.dropWhile Char.isDigit)

/-- The fraction at the start, which has at least one digit. -/
def fraction (cs : List Char) : List Char × List Char :=
  match cs with
  | '.' :: rest => if (digits rest).1.isEmpty then ([], cs) else digits rest
  | _ => ([], cs)

/-- The exponent at the start, which has at least one digit. -/
def exponent (cs : List Char) : Option Int × List Char :=
  match cs with
  | e :: rest =>
    if e != 'e' && e != 'E' then (none, cs)
    else
      let (negative, rest) :=
        match rest with
        | '-' :: rest => (true, rest)
        | '+' :: rest => (false, rest)
        | _ => (false, rest)
      let (ds, rest) := digits rest
      if ds.isEmpty then (none, cs)
      else (some (if negative then -(digitsValue ds : Int) else digitsValue ds), rest)
  | [] => (none, cs)

/-- The number at the start.  It is whole if it has neither fraction nor exponent, and then it must
not have too many digits. -/
def number (cs : List Char) : Option (Datum × List Char) :=
  let (negative, cs) :=
    match cs with
    | '-' :: rest => (true, rest)
    | _ => (false, cs)
  let (whole, rest) :=
    match cs with
    | '0' :: rest => (['0'], rest)
    | _ => digits cs
  if whole.isEmpty then none
  else
    let (part, rest) := fraction rest
    let (power, rest) := exponent rest
    if part.isEmpty && power.isNone then
      let n : Int := digitsValue whole
      if Text.Numeral.mostDigits < whole.length then none
      else some (.int (if negative then -n else n), rest)
    else
      let x := Decimal.toFloat (digitsValue (whole ++ part)) (power.getD 0 - part.length)
      some (.float (if negative then -x else x), rest)

/-- The words with a meaning. -/
def words : List (String × Datum) :=
  [("null", .null), ("true", .bool true), ("false", .bool false), ("NaN", .float (0 / 0)),
    ("Infinity", .float (1 / 0)), ("-Infinity", .float (-1 / 0))]

/-- The word or number at the start. -/
def scalar (cs : List Char) : Option (Datum × List Char) :=
  match words.find? fun w => w.1.toList.isPrefixOf cs with
  | some (word, d) => some (d, cs.drop word.length)
  | none => number cs

/-! ## Reading data -/

/-- Why a text writes no datum. -/
inductive Flaw where
  | malformed
  /-- Lists and mappings stand too deep in one another. -/
  | tooDeep
  deriving DecidableEq, Repr

/-- The most lists and mappings that stand in one another. -/
def deepest : Nat :=
  975

/-- What is read, and what follows it. -/
abbrev Parsed (α : Type) := Except Flaw (α × List Char)

/-- A part that is there, or nothing well formed. -/
def orMalformed {α : Type} : Option α → Except Flaw α
  | some a => .ok a
  | none => .error .malformed

mutual

/-- The datum at the start and what follows it; `room` is how many more lists and mappings may stand
in one another. -/
def value (room : Nat) : Nat → List Char → Parsed Datum
  | 0, _ => .error .malformed
  | fuel + 1, cs =>
    match cs, room with
    | '"' :: rest, _ => orMalformed (text rest)
    | '[' :: _, 0 => .error .tooDeep
    | '\x7b' :: _, 0 => .error .tooDeep
    | '[' :: rest, room + 1 =>
      match skip rest with
      | ']' :: rest => .ok (.list [], rest)
      | rest => (items room fuel rest).map fun (ds, rest) => (.list ds, rest)
    | '\x7b' :: rest, room + 1 =>
      match skip rest with
      | '\x7d' :: rest => .ok (.mapping [], rest)
      | rest => (entries room fuel rest).map fun (es, rest) =>
          (.mapping (es.foldl (fun all e => Datum.putEntry all e.1 e.2) []), rest)
    | cs, _ => orMalformed (scalar cs)
termination_by structural fuel => fuel

/-- The items of a list, up to its end. -/
def items (room : Nat) : Nat → List Char → Parsed (List Datum)
  | 0, _ => .error .malformed
  | fuel + 1, cs =>
    match value room fuel (skip cs) with
    | .error flaw => .error flaw
    | .ok (d, rest) =>
      match skip rest with
      | ']' :: rest => .ok ([d], rest)
      | ',' :: rest => (items room fuel rest).map fun (ds, rest) => (d :: ds, rest)
      | _ => .error .malformed
termination_by structural fuel => fuel

/-- The entries of a mapping, up to its end. -/
def entries (room : Nat) : Nat → List Char → Parsed (List (Datum × Datum))
  | 0, _ => .error .malformed
  | fuel + 1, cs =>
    match skip cs with
    | '"' :: rest =>
      match text rest with
      | none => .error .malformed
      | some (name, rest) =>
        match skip rest with
        | ':' :: rest =>
          match value room fuel (skip rest) with
          | .error flaw => .error flaw
          | .ok (d, rest) =>
            match skip rest with
            | '\x7d' :: rest => .ok ([(name, d)], rest)
            | ',' :: rest =>
              (entries room fuel rest).map fun (es, rest) => ((name, d) :: es, rest)
            | _ => .error .malformed
        | _ => .error .malformed
    | _ => .error .malformed
termination_by structural fuel => fuel

end

/-- The datum a text writes.  Reading a datum takes at most two steps for each character. -/
def read (s : String) : Except Flaw Datum :=
  let cs := skip s.toList
  match value deepest (2 * cs.length + 2) cs with
  | .error flaw => .error flaw
  | .ok (d, rest) => if (skip rest).isEmpty then .ok d else .error .malformed

/-- The datum a text writes, if it does. -/
def read? (s : String) : Option Datum :=
  (read s).toOption

/-! ## Writing -/

/-- One character inside quotes. -/
def writtenChar (c : Char) : List Char :=
  if c = '"' || c = '\\' then ['\\', c]
  else if c = '\n' then ['\\', 'n']
  else if c = '\r' then ['\\', 'r']
  else if c = '\t' then ['\\', 't']
  else if c = '\x08' then ['\\', 'b']
  else if c = '\x0c' then ['\\', 'f']
  else if 0x20 ≤ c.toNat && c.toNat < 0x7f then [c]
  else if c.toNat < 0x10000 then '\\' :: 'u' :: Text.hex 4 c.toNat
  else
    let n := c.toNat - 0x10000
    '\\' :: 'u' :: Text.hex 4 (0xd800 + n / 0x400) ++
      '\\' :: 'u' :: Text.hex 4 (0xdc00 + n % 0x400)

/-- A text in quotes. -/
def writtenText (s : String) : String :=
  String.ofList ('"' :: s.toList.flatMap writtenChar ++ ['"'])

/-- A text in quotes, by its codes. -/
def writtenCodes (cs : Text.Codes) : String :=
  let written := fun (n : Nat) =>
    if n.isValidChar then writtenChar (Text.charOfCode n) else '\\' :: 'u' :: Text.hex 4 n
  String.ofList ('"' :: cs.flatMap written ++ ['"'])

/-- A double; what is not finite is a word. -/
def writtenFloat (x : Float) : String :=
  if x.isNaN then "NaN"
  else if x == 1 / 0 then "Infinity"
  else if x == -1 / 0 then "-Infinity"
  else Decimal.ofFloat x

mutual

/-- A datum in JSON. -/
def write : Datum → String
  | .null => "null"
  | .bool true => "true"
  | .bool false => "false"
  | .int n => toString n
  | .float x => writtenFloat x
  | .text s => writtenText s
  | .unpaired codes => writtenCodes codes
  | .octets bytes => writtenText (Datum.renderOctets bytes)
  | .timestamp s => writtenText s
  | .list ds => "[" ++ ", ".intercalate (writeItems ds) ++ "]"
  | .group ds => "[" ++ ", ".intercalate (writeItems ds) ++ "]"
  | .pair a b => "[" ++ write a ++ ", " ++ write b ++ "]"
  | .mapping es => "\x7b" ++ ", ".intercalate (writeEntries es) ++ "\x7d"

/-- The items of a list in JSON. -/
def writeItems : List Datum → List String
  | [] => []
  | d :: rest => write d :: writeItems rest

/-- The entries of a mapping in JSON.  A name that is not a text is written as it is shown. -/
def writeEntries : List (Datum × Datum) → List String
  | [] => []
  | (name, d) :: rest =>
    (writtenText (name.text?.getD name.render) ++ ": " ++ write d) :: writeEntries rest

end

end Rechristen.Json
