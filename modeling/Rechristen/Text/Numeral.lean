import Rechristen.Decimal
import Rechristen.Text.Blank

/-!
# Numbers in texts

A number may be written in the decimal digits of any script, with blanks around it and a sign in
front.  Between two digits of a whole number there may be one underscore, and a number in base two,
eight or sixteen may begin with the mark of its base.  Whole numbers in base ten have at most so
many digits.
-/

namespace Rechristen.Text

/-- The zeros of the scripts that have decimal digits.  The other nine follow each zero. -/
def zeros : List Nat :=
  [0x30, 0x660, 0x6f0, 0x7c0, 0x966, 0x9e6, 0xa66, 0xae6, 0xb66, 0xbe6, 0xc66, 0xce6, 0xd66, 0xde6,
    0xe50, 0xed0, 0xf20, 0x1040, 0x1090, 0x17e0, 0x1810, 0x1946, 0x19d0, 0x1a80, 0x1a90, 0x1b50,
    0x1bb0, 0x1c40, 0x1c50, 0xa620, 0xa8d0, 0xa900, 0xa9d0, 0xa9f0, 0xaa50, 0xabf0, 0xff10, 0x104a0,
    0x10d30, 0x11066, 0x110f0, 0x11136, 0x111d0, 0x112f0, 0x11450, 0x114d0, 0x11650, 0x116c0,
    0x11730, 0x118e0, 0x11950, 0x11c50, 0x11d50, 0x11da0, 0x16a60, 0x16ac0, 0x16b50, 0x1d7ce,
    0x1d7d8, 0x1d7e2, 0x1d7ec, 0x1d7f6, 0x1e140, 0x1e2f0, 0x1e950, 0x1fbf0]

/-- The value of a decimal digit of any script. -/
def decimalDigit? (c : Char) : Option Nat :=
  (zeros.find? fun first => first ≤ c.toNat && c.toNat < first + 10).map (c.toNat - ·)

namespace Numeral

/-- A character as it counts in a number: decimal digits of other scripts are the usual ones, and
blanks beyond the usual ones are spaces. -/
def plainChar (c : Char) : Char :=
  if c.toNat < 0x7f then c
  else if isBlank c then ' '
  else
    match decimalDigit? c with
    | some d => Char.ofNat ('0'.toNat + d)
    | none => c

/-- The blanks around a number. -/
def isSpace (c : Char) : Bool :=
  c == ' ' || (0x9 ≤ c.toNat && c.toNat ≤ 0xd)

/-- The value of a letter or a usual digit as a digit. -/
def digit? (c : Char) : Option Nat :=
  if c.isDigit then some (c.toNat - '0'.toNat)
  else if 'a' ≤ c && c ≤ 'z' then some (c.toNat - 'a'.toNat + 10)
  else if 'A' ≤ c && c ≤ 'Z' then some (c.toNat - 'A'.toNat + 10)
  else none

/-- A character is a digit of a base. -/
def isDigitOf (base : Nat) (c : Char) : Bool :=
  (digit? c).any (· < base)

/-- What follows a sign, and whether it is a minus sign. -/
def signed (cs : List Char) : Bool × List Char :=
  match cs with
  | '-' :: rest => (true, rest)
  | '+' :: rest => (false, rest)
  | _ => (false, cs)

/-- The letter in the mark of a base. -/
def markOf? : Nat → Option Char
  | 2 => some 'b'
  | 8 => some 'o'
  | 16 => some 'x'
  | _ => none

/-- What follows the mark of a base, with the underscore behind it. -/
def withoutMark (base : Nat) (cs : List Char) : List Char :=
  match cs with
  | '0' :: m :: rest =>
    if markOf? base == some m.toLower then
      match rest with
      | '_' :: rest => rest
      | _ => rest
    else cs
  | _ => cs

/-- The most digits of a whole number in base ten. -/
def mostDigits : Nat :=
  4300

/-- Why a text is no whole number. -/
inductive Flaw where
  | notNumber
  | tooLong (digits : Nat)
  deriving DecidableEq, Repr

/-- What is said of a text that is no whole number in a base; `shown` is the text in quotes. -/
def Flaw.message (base : Nat) (shown : String) : Flaw → String
  | notNumber => "invalid literal for int() with base " ++ toString base ++ ": " ++ shown
  | tooLong digits =>
    "Exceeds the limit (" ++ toString mostDigits ++
      " digits) for integer string conversion: value has " ++ toString digits ++
      " digits; use sys.set_int_max_str_digits() to increase the limit"

/-- Underscores stand between digits, one at a time. -/
def wellSpaced (run : List Char) : Bool :=
  run.head? ≠ some '_' && run.getLast? ≠ some '_' &&
    !(run.zip (run.drop 1)).any fun (a, b) => a == '_' && b == '_'

/-- The value of digits of a base. -/
def valueOf (base : Nat) (ds : List Char) : Nat :=
  ds.foldl (fun n c => n * base + (digit? c).getD 0) 0

/-- The whole number that a text writes in a base. -/
def whole (base : Nat) (cs : List Char) : Except Flaw Int :=
  let (negative, cs) := signed ((cs.map plainChar).dropWhile isSpace)
  let cs := withoutMark base cs
  let run := cs.takeWhile fun c => c == '_' || isDigitOf base c
  let ds := run.filter (· != '_')
  if ds.isEmpty || !wellSpaced run then .error .notNumber
  else if base = 10 && mostDigits < ds.length then .error (.tooLong ds.length)
  else if !(cs.drop run.length).all isSpace then .error .notNumber
  else .ok (if negative then -(valueOf base ds : Int) else valueOf base ds)

/-- The exponent at the start, which has at least one digit. -/
def exponent (cs : List Char) : Int × List Char :=
  match cs with
  | e :: rest =>
    let (negative, rest') := signed rest
    let ds := rest'.takeWhile Char.isDigit
    if (e != 'e' && e != 'E') || ds.isEmpty then (0, cs)
    else
      (if negative then -(valueOf 10 ds : Int) else valueOf 10 ds, rest'.drop ds.length)
  | [] => (0, cs)

/-- The double that digits with a point and an exponent write, or one of the words for what is no
number and for the infinite. -/
def unsignedDouble? (cs : List Char) : Option Float :=
  let word := String.ofList (cs.map Char.toLower)
  if word == "inf" || word == "infinity" then some (1 / 0)
  else if word == "nan" then some (0 / 0)
  else
    let before := cs.takeWhile Char.isDigit
    let (part, rest) :=
      match cs.drop before.length with
      | '.' :: rest => (rest.takeWhile Char.isDigit, rest.dropWhile Char.isDigit)
      | rest => ([], rest)
    let (power, rest) := exponent rest
    if (before ++ part).isEmpty || !rest.isEmpty then none
    else some (Decimal.toFloat (valueOf 10 (before ++ part)) (power - part.length))

/-- The double that a text writes. -/
def double? (cs : List Char) : Option Float :=
  let cs := (((cs.map plainChar).dropWhile isSpace).reverse.dropWhile isSpace).reverse
  let (negative, cs) := signed cs
  (unsignedDouble? cs).map fun x => if negative then -x else x

end Numeral

end Rechristen.Text
