import Rechristen.Datum
import Rechristen.Text.Blank
import Rechristen.Text.Encoding
import Rechristen.Text.Numeral

/-!
# Data as values of settings

Settings come from files and from the environment, where numbers and truth values may be written as
texts, and texts as bytes.  A datum is taken for a truth value or a whole number if it can mean only
one.  A datum that does not fit is a mismatch, and every mismatch has a kind.
-/

namespace Rechristen

/-- Why a datum is not a value of a setting. -/
inductive Mismatch where
  | notChoice
  | badTruth
  | notTruth
  | badNumber
  | hugeNumber
  | notNumber
  | fractional
  | notFinite
  | tooSmall
  | tooLarge
  | notText
  | brokenText
  | emptyText
  | badText
  | notList
  | notSection
  | unknownKey
  deriving DecidableEq, Repr

namespace Mismatch

/-- The name under which a mismatch is reported. -/
def name : Mismatch → String
  | notChoice => "enum"
  | badTruth => "bool_parsing"
  | notTruth => "bool_type"
  | badNumber => "int_parsing"
  | hugeNumber => "int_parsing_size"
  | notNumber => "int_type"
  | fractional => "int_from_float"
  | notFinite => "finite_number"
  | tooSmall => "greater_than_equal"
  | tooLarge => "less_than_equal"
  | notText => "string_type"
  | brokenText => "string_unicode"
  | emptyText => "string_too_short"
  | badText => "string_pattern_mismatch"
  | notList => "list_type"
  | notSection => "model_type"
  | unknownKey => "extra_forbidden"

end Mismatch

namespace Coercion

/-- The text a datum is, in characters or in bytes, if it is one.  Half of a pair is no character,
and bytes that write no text are a mismatch of their own. -/
def textOf? (garbled : Mismatch) : Datum → Except Mismatch (Option String)
  | .text s => .ok (some s)
  | .unpaired _ => .error .brokenText
  | .octets bytes =>
    if Text.isUtf8 bytes then .ok (some (Text.decodeUtf8 bytes)) else .error garbled
  | _ => .ok none

/-! ## Truth values -/

/-- The texts for what is true. -/
def trueWords : List String :=
  ["1", "t", "y", "on", "yes", "true"]

/-- The texts for what is false. -/
def falseWords : List String :=
  ["0", "f", "n", "no", "off", "false"]

/-- Whether a whole number fits in a machine word of 64 bits. -/
def fitsWord (n : Int) : Bool :=
  -Int.pow 2 63 ≤ n && n < Int.pow 2 63

/-- The whole number a double is, if it is small enough to be a number of settings.  The least word
is not. -/
def wholeWord? (x : Float) : Option Int :=
  (Decimal.wholeOf? x).filter fun n => fitsWord n && n != -Int.pow 2 63

/-- A truth value from a number. -/
def truthOfInt (n : Int) : Except Mismatch Bool :=
  if n = 0 then .ok false
  else if n = 1 then .ok true
  else if fitsWord n then .error .badTruth else .error .notTruth

/-- A truth value from a text: one of the words, in any case. -/
def truthOfText (s : String) : Except Mismatch Bool :=
  let word := String.ofList (s.toList.map Char.toLower)
  if trueWords.contains word then .ok true
  else if falseWords.contains word then .ok false
  else .error .badTruth

/-- A truth value: one of the words, or zero or one. -/
def truth (d : Datum) : Except Mismatch Bool :=
  match textOf? .badTruth d with
  | .error m => .error m
  | .ok (some s) => truthOfText s
  | .ok none =>
    match d with
    | .bool b => .ok b
    | .int n => truthOfInt n
    | .float x =>
      match wholeWord? x with
      | some n => truthOfInt n
      | none => .error .notTruth
    | _ => .error .notTruth

/-! ## Whole numbers -/

/-- The number that a text writes in its plainest form: a minus sign or none, and digits of which
the first is no zero unless it is the only one.  A run of digits that is too long is refused for its
length, whatever follows it. -/
def plainNumber (cs : List Char) : Except Mismatch Int :=
  let (negative, ds) :=
    match cs with
    | '-' :: ds => (true, ds)
    | _ => (false, cs)
  match ds with
  | [] => .error .badNumber
  | '0' :: rest => if rest.isEmpty then .ok 0 else .error .badNumber
  | _ =>
    let run := ds.takeWhile Char.isDigit
    if Text.Numeral.mostDigits < run.length then .error .hugeNumber
    else if run.isEmpty || run.length < ds.length then .error .badNumber
    else
      let n := run.foldl (fun (n : Int) c => n * 10 + (c.toNat - '0'.toNat : Nat)) 0
      .ok (if negative then -n else n)

/-- What follows a sign at the start, and whether it is a minus sign.  No minus sign stands after a
plus sign. -/
def withoutSign? (cs : List Char) : Option (Bool × List Char) :=
  match cs with
  | '+' :: '-' :: _ => none
  | '+' :: rest => some (false, rest)
  | '-' :: rest => some (true, rest)
  | _ => some (false, cs)

/-- Leading zeros, with underscores among them, taken away, except the last before a point or the
end.  What is left begins with a digit or a minus sign. -/
def withoutZeros? (cs : List Char) : Option (List Char) :=
  match cs with
  | [] => none
  | c :: rest =>
    if c == '0' then
      let inner := fun c => c == '0' || c == '_'
      let last := (rest.takeWhile inner).getLastD c
      match rest.dropWhile inner with
      | [] => some [last]
      | d :: ds =>
        if d == '.' then some (last :: d :: ds)
        else if d.isDigit || d == '-' then some (d :: ds)
        else none
    else if c.isDigit || c == '-' then some cs else none

/-- A fraction of zeros, at least one, taken away. -/
def withoutFraction (cs : List Char) : List Char :=
  match cs.dropWhile (· != '.') with
  | [] => cs
  | _ :: part =>
    if !part.isEmpty && part.all (· == '0') then cs.takeWhile (· != '.') else cs

/-- Underscores between digits taken away.  They stand alone and at neither end. -/
def withoutUnderscores (cs : List Char) : List Char :=
  let doubled := (cs.zip (cs.drop 1)).any fun (a, b) => a == '_' && b == '_'
  if cs.head? = some '_' || cs.getLast? = some '_' || doubled then cs
  else cs.filter (· != '_')

/-- The blanks that may stand around a number. -/
def isPadding (c : Char) : Bool :=
  Text.isBlank c && !(0x1c ≤ c.toNat && c.toNat ≤ 0x1f)

/-- A text brought to the plainest form of the number it writes. -/
def plainForm? (s : String) : Option (List Char) :=
  match withoutSign? (Text.trim isPadding s).toList with
  | none => none
  | some (negative, cs) =>
    (withoutZeros? cs).map fun cs =>
      let ds := withoutUnderscores (withoutFraction cs)
      if negative then '-' :: ds else ds

/-- The number that a text writes, in its plainest form or not. -/
def numberOfText (s : String) : Except Mismatch Int :=
  match plainNumber s.toList with
  | .error .badNumber =>
    match plainForm? s with
    | some cs => plainNumber cs
    | none => .error .badNumber
  | result => result

/-- A whole number: one that is written, a truth value, or a fraction that is whole. -/
def number (d : Datum) : Except Mismatch Int :=
  match textOf? .badNumber d with
  | .error m => .error m
  | .ok (some s) => numberOfText s
  | .ok none =>
    match d with
    | .int n => .ok n
    | .bool b => .ok (if b then 1 else 0)
    | .float x =>
      if x.isNaN || x.isInf then .error .notFinite
      else if (Decimal.wholeOf? x).isNone then .error .fractional
      else
        match wholeWord? x with
        | some n => .ok n
        | none => .error .hugeNumber
    | _ => .error .notNumber

/-- A whole number between bounds. -/
def numberBetween (low high : Int) (d : Datum) : Except Mismatch Int :=
  match number d with
  | .error m => .error m
  | .ok n => if n < low then .error .tooSmall else if high < n then .error .tooLarge else .ok n

/-! ## Texts and choices -/

/-- A text. -/
def text (d : Datum) : Except Mismatch String :=
  match textOf? .brokenText d with
  | .error m => .error m
  | .ok (some s) => .ok s
  | .ok none => .error .notText

/-- A text that is not empty. -/
def someText (d : Datum) : Except Mismatch String :=
  match text d with
  | .error m => .error m
  | .ok s => if s.isEmpty then .error .emptyText else .ok s

/-- One of some texts. -/
def textAmong (words : List String) (d : Datum) : Except Mismatch String :=
  match text d with
  | .error m => .error m
  | .ok s => if words.contains s then .ok s else .error .badText

/-- A value that has a word. -/
def choice {α : Type} (ofWord? : String → Option α) (d : Datum) : Except Mismatch α :=
  match textOf? .notChoice d with
  | .error m => .error m
  | .ok none => .error .notChoice
  | .ok (some s) =>
    match ofWord? s with
    | some a => .ok a
    | none => .error .notChoice

end Coercion

end Rechristen
