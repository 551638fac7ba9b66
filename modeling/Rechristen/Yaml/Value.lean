import Rechristen.Text.Base64
import Rechristen.Text.Numeral
import Rechristen.Yaml.Failure
import Rechristen.Yaml.Tag

/-!
# The values of scalars

A scalar with a tag has a value, unless it does not fit its tag.
-/

namespace Rechristen.Yaml

open Text (Codes)

/-- A text without underscores. -/
def withoutUnderscores (text : Codes) : Codes :=
  text.filter (· != '_'.toNat)

/-- A text begins with some characters. -/
def begins (text : Codes) (start : String) : Bool :=
  (Text.codesOf start).isPrefixOf text

/-- What follows a sign at the start, and whether it is a minus sign. -/
def signed (text : Codes) : Bool × Codes :=
  if begins text "-" then (true, text.drop 1)
  else if begins text "+" then (false, text.drop 1)
  else (false, text)

/-- The groups of a number between colons. -/
def groups (text : Codes) : List Codes :=
  text.foldr (fun n parts =>
    if n = ':'.toNat then [] :: parts
    else
      match parts with
      | [] => [[n]]
      | part :: rest => (n :: part) :: rest) [[]]

/-! ## Whole numbers -/

/-- The whole number that a text writes in a base. -/
def inBase (base : Nat) (text : Codes) : Except Failure Int :=
  match Text.Numeral.whole base text.chars with
  | .ok n => .ok n
  | .error .notNumber => .error (.notNumber base text)
  | .error (.tooLong digits) => .error (.longNumber digits)

/-- The whole number that a text writes after its sign.  Groups between colons are in base sixty. -/
def unsignedInt (text : Codes) : Except Failure Int :=
  if text.isEmpty then .error .noNumber
  else if text == Text.codesOf "0" then .ok 0
  else if begins text "0b" then inBase 2 (text.drop 2)
  else if begins text "0x" then inBase 16 (text.drop 2)
  else if begins text "0" then inBase 8 text
  else ((groups text).mapM (inBase 10)).map (·.foldl (fun n group => n * 60 + group) 0)

/-- The whole number that a text writes. -/
def int (text : Codes) : Except Failure Datum :=
  let (negative, rest) := signed (withoutUnderscores text)
  (unsignedInt rest).map fun n => .int (if negative then -n else n)

/-! ## Doubles -/

/-- The double that a text writes in base ten. -/
def decimal (text : Codes) : Except Failure Float :=
  match Text.Numeral.double? text.chars with
  | some x => .ok x
  | none => .error (.notFraction text)

/-- Groups in base sixty, added up from the last to the first; the last has the weight `base`. -/
def sumGroups (sum : Float) (base : Nat) : List Float → Except Failure Float
  | [] => .ok sum
  | group :: rest =>
    let weight := Decimal.toFloat base 0
    if weight.isInf then .error .longFraction
    else sumGroups (sum + group * weight) (base * 60) rest

/-- The double that a text writes after its sign. -/
def unsignedFloat (text : Codes) : Except Failure Float :=
  if text == Text.codesOf ".inf" then .ok (1 / 0)
  else if text == Text.codesOf ".nan" then .ok (0 / 0)
  else if text.contains ':'.toNat then
    match (groups text).mapM decimal with
    | .error f => .error f
    | .ok xs => sumGroups 0 1 xs.reverse
  else decimal text

/-- The double that a text writes. -/
def float (text : Codes) : Except Failure Datum :=
  let text := (withoutUnderscores text).lowercase
  let (negative, rest) := signed text
  if text.isEmpty then .error .noNumber
  else (unsignedFloat rest).map fun x => .float (if negative then -x else x)

/-! ## Points in time -/

/-- The days of a month. -/
def daysIn (year month : Nat) : Nat :=
  if month = 2 then
    if year % 4 = 0 && (year % 100 ≠ 0 || year % 400 = 0) then 29 else 28
  else if [4, 6, 9, 11].contains month then 30
  else 31

/-- Why a point in time does not exist, if it does not.  The zone is looked at first. -/
def Moment.error? (m : Moment) : Option MomentError :=
  let (hour, minute, second) := m.clock.getD (0, 0, 0)
  match m.zone.filter fun seconds => seconds ≤ -86400 || 86400 ≤ seconds with
  | some seconds => some (.zone seconds)
  | none =>
    if m.year < 1 then some (.year m.year)
    else if m.month < 1 || 12 < m.month then some .month
    else if m.day < 1 || daysIn m.year m.month < m.day then some .day
    else if 23 < hour then some .hour
    else if 59 < minute then some .minute
    else if 59 < second then some .second
    else none

/-- The point in time that a text writes. -/
def moment (text : Codes) : Except Failure Datum :=
  match Moment.ofChars? true (Tag.withoutLineEnd text.chars) with
  | none => .error .notMoment
  | some m =>
    match m.error? with
    | some e => .error (.moment e)
    | none => .ok (.timestamp text.text)

/-! ## All scalars -/

/-- The truth value that a text writes, in any case. -/
def truth (text : Codes) : Except Failure Datum :=
  match truthWords.find? fun w => Text.codesOf w.1 == text.lowercase with
  | some (_, b) => .ok (.bool b)
  | none => .error (.notTruth text.lowercase)

/-- The bytes that a text writes. -/
def binary (text : Codes) : Except Failure Datum :=
  if text.all (· < 0x80) then
    match Text.Base64.decode? text.chars with
    | some bytes => .ok (.octets bytes)
    | none => .error .malformed
  else .error .malformed

/-- The value of a scalar.  Marks for merging and for a default value have none. -/
def scalarValue (tag : Tag) (text : Codes) : Except Failure Datum :=
  match tag with
  | .null => .ok .null
  | .truth => truth text
  | .int => int text
  | .float => float text
  | .moment => moment text
  | .binary => binary text
  | .text => .ok (.ofCodes text)
  | _ => .error .malformed

end Rechristen.Yaml
