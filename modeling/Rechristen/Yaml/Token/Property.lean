import Rechristen.Json
import Rechristen.Text.Encoding
import Rechristen.Yaml.Token.Scanner

/-!
# Anchors, tags and directives

A node of a configuration file can have a name, under which it is repeated, and a tag, which says
what kind of node it is.  Directives before the start of a document say what is meant by the handles
in tags.
-/

namespace Rechristen.Yaml.Scanner

/-- The word here, which is not empty, and the scanner after it. -/
def word? (s : Scanner) : Option (String × Scanner) :=
  let cs := s.rest.takeWhile isWordMark
  if cs.isEmpty then none else some (String.ofList cs, s.advance cs.length)

/-- A line or the file ends here, or a blank stands here. -/
def atWordEnd (s : Scanner) : Bool :=
  s.peek 0 == ' ' || s.peek 0 == '\x00' || isBreak (s.peek 0)

/-- The name of an anchor or of a repetition, after its mark. -/
def anchorName (s : Scanner) : Except Failure (Scanner × String) :=
  match s.word? with
  | none => .error .malformed
  | some (name, s) =>
    let ends := ['?', ':', ',', ']', '\x7d', '%', '@', '\x60']
    if isGap (s.peek 0) || ends.contains (s.peek 0) then .ok (s, name) else .error .malformed

/-! ## Tags -/

/-- The characters of the rest of a tag, besides letters and digits. -/
def tagMarks : List Char :=
  "-;/?:@&=+$,_.!~*'()[]".toList

/-- The octet that a percent sign and two hexadecimal digits write. -/
def octet? (cs : List Char) : Option (UInt8 × List Char) :=
  match cs with
  | '%' :: a :: b :: rest => (Json.hexNumber? [a, b]).map fun n => (n.toUInt8, rest)
  | _ => none

/-- The octets at the start. -/
def octets : Nat → List Char → List UInt8 × List Char
  | 0, cs => ([], cs)
  | fuel + 1, cs =>
    match octet? cs with
    | none => ([], cs)
    | some (b, rest) =>
      let (bs, rest) := octets fuel rest
      (b :: bs, rest)

/-- The characters of the rest of a tag, and what follows them. -/
def tagChars : Nat → List Char → Except Failure (List Char × List Char)
  | 0, cs => .ok ([], cs)
  | fuel + 1, cs =>
    match cs with
    | [] => .ok ([], [])
    | c :: rest =>
      if c.isAlphanum || tagMarks.contains c then
        (tagChars fuel rest).map fun (more, rest) => (c :: more, rest)
      else if c == '%' then
        let (bs, rest) := octets cs.length cs
        if bs.isEmpty || !Text.isUtf8 bs || rest.head? == some '%' then .error .malformed
        else
          (tagChars fuel rest).map fun (more, rest) =>
            ((Text.decodeUtf8 bs).toList ++ more, rest)
      else .ok ([], cs)

/-- The rest of a tag, which is not empty. -/
def tagRest (s : Scanner) : Except Failure (Scanner × String) :=
  match tagChars (s.rest.length + 1) s.rest with
  | .error f => .error f
  | .ok (cs, rest) =>
    if cs.isEmpty then .error .malformed
    else .ok (s.advance (s.rest.length - rest.length), String.ofList cs)

/-- The handle of a tag: a word between exclamation marks, or one such mark before a blank. -/
def tagHandle (s : Scanner) : Except Failure (Scanner × String) :=
  if s.peek 0 != '!' then .error .malformed
  else if s.peek 1 == ' ' then .ok (s.step, "!")
  else
    let name := s.step.rest.takeWhile isWordMark
    let s := s.step.advance name.length
    if s.peek 0 != '!' then .error .malformed
    else .ok (s.step, String.ofList ('!' :: name ++ ['!']))

/-- A tag. -/
def tagText (s : Scanner) : Except Failure (Scanner × Option String × String) :=
  let written : Except Failure (Scanner × Option String × String) :=
    if s.peek 1 == '<' then
      match (s.advance 2).tagRest with
      | .error f => .error f
      | .ok (s, rest) => if s.peek 0 == '>' then .ok (s.step, none, rest) else .error .malformed
    else if isGap (s.peek 1) then .ok (s.step, none, "!")
    else
      let ahead := s.step.rest.takeWhile fun c => c != ' ' && !isBreak c
      if ahead.contains '!' then
        match s.tagHandle with
        | .error f => .error f
        | .ok (s, handle) => s.tagRest.map fun (s, rest) => (s, some handle, rest)
      else s.step.tagRest.map fun (s, rest) => (s, some "!", rest)
  match written with
  | .error f => .error f
  | .ok (s, tag) => if s.atWordEnd then .ok (s, tag) else .error .malformed

/-! ## Directives -/

/-- A number of a version. -/
def versionNumber (s : Scanner) : Except Failure (Scanner × Nat) :=
  let ds := s.rest.takeWhile Char.isDigit
  if ds.isEmpty then .error .malformed
  else if Text.Numeral.mostDigits < ds.length then .error (.longNumber ds.length)
  else .ok (s.advance ds.length, Json.digitsValue ds)

/-- The version of the format: two numbers with a point between them. -/
def version (s : Scanner) : Except Failure (Scanner × Token) := do
  let (s, major) ← (s.skip (· == ' ')).versionNumber
  if s.peek 0 != '.' then throw .malformed
  let (s, _) ← s.step.versionNumber
  if s.atWordEnd then return (s, .version major) else throw .malformed

/-- What a handle stands for. -/
def handle (s : Scanner) : Except Failure (Scanner × Token) := do
  let (s, name) ← (s.skip (· == ' ')).tagHandle
  if s.peek 0 != ' ' then throw .malformed
  let (s, meaning) ← (s.skip (· == ' ')).tagRest
  if s.atWordEnd then return (s, .handle name meaning) else throw .malformed

end Rechristen.Yaml.Scanner
