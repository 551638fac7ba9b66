/-!
# Bytes in base 64

Four characters write three bytes.  Characters that are no digits are passed over.  A sign for
padding counts once two digits of a group are there, and when the group is full nothing after it is
read.
-/

namespace Rechristen.Text.Base64

/-- The value of a digit. -/
def digit? (c : Char) : Option Nat :=
  if 'A' ≤ c && c ≤ 'Z' then some (c.toNat - 'A'.toNat)
  else if 'a' ≤ c && c ≤ 'z' then some (c.toNat - 'a'.toNat + 26)
  else if c.isDigit then some (c.toNat - '0'.toNat + 52)
  else if c == '+' then some 62
  else if c == '/' then some 63
  else none

/-- The byte that a digit completes, if it is not the first of its group: `rest` are the bits left
over from the digit before it. -/
def byteAt (place rest digit : Nat) : List UInt8 :=
  match place with
  | 0 => []
  | 1 => [(rest * 4 + digit / 16).toUInt8]
  | 2 => [(rest * 16 + digit / 4).toUInt8]
  | _ => [(rest * 64 + digit).toUInt8]

/-- The bits of a digit that are left over for the next one. -/
def restAt (place digit : Nat) : Nat :=
  match place with
  | 0 => digit
  | 1 => digit % 16
  | 2 => digit % 4
  | _ => 0

/-- The bytes of characters, after so many digits and signs for padding of a group. -/
def decodeFrom? (place rest pads : Nat) : List Char → Option (List UInt8)
  | [] => if place = 0 then some [] else none
  | c :: cs =>
    if c == '=' then
      if place < 2 then decodeFrom? place rest pads cs
      else if 4 ≤ place + pads + 1 then some []
      else decodeFrom? place rest (pads + 1) cs
    else
      match digit? c with
      | none => decodeFrom? place rest pads cs
      | some d =>
        (decodeFrom? ((place + 1) % 4) (restAt place d) 0 cs).map (byteAt place rest d ++ ·)

/-- The bytes that a text writes, unless its last group is not full. -/
def decode? (cs : List Char) : Option (List UInt8) :=
  decodeFrom? 0 0 0 cs

end Rechristen.Text.Base64
