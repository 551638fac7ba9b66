/-!
# Texts as bytes

Files are bytes; names and edits are texts.  Reading bytes as UTF-8 never fails: every longest
stretch of bytes that cannot be completed to a character is read as one replacement character.
Latin-1 reads every byte as a character but cannot write every text.
-/

namespace Rechristen

/-- The content of a file. -/
abbrev Bytes := List UInt8

namespace Text

/-- What reads as a character when bytes do not. -/
def replacement : Char := Char.ofNat 0xfffd

/-- A character that was begun: how many bytes are still owed, the range the next one must lie in,
and the bits read so far.  Nothing is owed between two characters. -/
structure Partial where
  owed : Nat
  low : UInt8
  high : UInt8
  bits : Nat
  deriving DecidableEq, Repr

/-- Between two characters. -/
def Partial.idle : Partial := ⟨0, 0x80, 0xbf, 0⟩

/-- The first byte of a character. -/
def beginChar (b : UInt8) : List Char × Partial :=
  if b < 0x80 then ([Char.ofNat b.toNat], .idle)
  else if b < 0xc2 then ([replacement], .idle)
  else if b < 0xe0 then ([], ⟨1, 0x80, 0xbf, b.toNat - 0xc0⟩)
  else if b < 0xf0 then
    ([], ⟨2, if b = 0xe0 then 0xa0 else 0x80, if b = 0xed then 0x9f else 0xbf, b.toNat - 0xe0⟩)
  else if b < 0xf5 then
    ([], ⟨3, if b = 0xf0 then 0x90 else 0x80, if b = 0xf4 then 0x8f else 0xbf, b.toNat - 0xf0⟩)
  else ([replacement], .idle)

/-- The next byte: the characters it completes, and what is begun after it. -/
def Partial.next (p : Partial) (b : UInt8) : List Char × Partial :=
  if p.owed = 0 then beginChar b
  else if p.low ≤ b && b ≤ p.high then
    let bits := p.bits * 64 + (b.toNat - 0x80)
    if p.owed = 1 then ([Char.ofNat bits], .idle) else ([], ⟨p.owed - 1, 0x80, 0xbf, bits⟩)
  else
    let (chars, begun) := beginChar b
    (replacement :: chars, begun)

/-- The characters of bytes that follow a begun character. -/
def decodeFrom (p : Partial) : Bytes → List Char
  | [] => if p.owed = 0 then [] else [replacement]
  | b :: rest => (p.next b).1 ++ decodeFrom (p.next b).2 rest

/-- Bytes read as UTF-8. -/
def decodeUtf8 (bytes : Bytes) : String :=
  String.ofList (decodeFrom .idle bytes)

/-- A text written as UTF-8. -/
def encodeUtf8 (s : String) : Bytes :=
  s.toList.flatMap String.utf8EncodeChar

/-- Bytes are UTF-8 exactly when reading and writing gives them back. -/
def isUtf8 (bytes : Bytes) : Bool :=
  encodeUtf8 (decodeUtf8 bytes) == bytes

end Text

/-- How the bytes of a file and its text correspond. -/
inductive Encoding where
  | utf8
  | latin1
  deriving DecidableEq, Repr

namespace Encoding

/-- Bytes read as text. -/
def decode : Encoding → Bytes → String
  | utf8, bytes => Text.decodeUtf8 bytes
  | latin1, bytes => String.ofList (bytes.map fun b => Char.ofNat b.toNat)

/-- A text written as bytes, if each of its characters can be written. -/
def encode? : Encoding → String → Option Bytes
  | utf8, s => some (Text.encodeUtf8 s)
  | latin1, s =>
    if s.toList.all fun c => c.toNat < 0x100 then some (s.toList.map fun c => c.toNat.toUInt8)
    else none

@[simp] theorem encode?_utf8 (s : String) : utf8.encode? s = some (Text.encodeUtf8 s) := rfl

end Encoding

end Rechristen
