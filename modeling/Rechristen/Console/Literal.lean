import Rechristen.Console.Literal.Layout
import Rechristen.Console.Literal.Number
import Rechristen.Console.Literal.Quoted
import Rechristen.Text.Lines

/-!
# Literals

The arguments of a handler in markup are literals: numbers, quoted texts, truth values, and groups,
sets and dictionaries of literals.  Square brackets end the markup, so that none occur here.  Only
whether a text is a literal matters, not which; but a set or a key must be fixed, a sign belongs to
a number, and a sum has a real part in front of an imaginary one.  A reader returns the characters
behind what it has read.
-/

namespace Rechristen.Literal

/-- What is known of a literal. -/
inductive Shape where
  /-- A number without a sign. -/
  | number (imaginary : Bool)
  /-- A number with a sign. -/
  | signed (imaginary : Bool)
  /-- Another literal that cannot change, which may be in a set or a key. -/
  | fixed
  /-- A set or a dictionary, or a group that holds one. -/
  | loose
  /-- The word `set`, which is a literal only with empty parentheses behind it. -/
  | setWord
  deriving DecidableEq

namespace Shape

/-- A literal may be in a set or a key. -/
def isFixed : Shape → Bool
  | .loose | .setWord => false
  | _ => true

/-- A literal is a number that can be the real part of a sum. -/
def isReal : Shape → Bool
  | .number imaginary | .signed imaginary => !imaginary
  | _ => false

end Shape

/-- The deepest nesting of brackets. -/
def deepest : Nat :=
  200

/-- What is known of a word. -/
def word? : String → Option Shape
  | "True" | "False" | "None" => some .fixed
  | "set" => some .setWord
  | _ => none

/-- Read quoted texts that follow one another.  All stand for bytes, or none does. -/
def quotedRow? (enclosed : Bool) (octets : Bool) : Nat → List Char → Option (List Char)
  | 0, _ => none
  | n + 1, cs =>
    match quoted? (skip enclosed cs) with
    | some (more, rest) => if more = octets then quotedRow? enclosed octets n rest else none
    | none => some cs

/-- Read a word, a number, or quoted texts. -/
def plain? (enclosed : Bool) (n : Nat) (cs : List Char) : Option (Shape × List Char) :=
  match cs with
  | '.' :: '.' :: '.' :: rest => some (.fixed, rest)
  | _ =>
    match quoted? cs with
    | some (octets, rest) => (quotedRow? enclosed octets n rest).map (.fixed, ·)
    | none =>
      let letters := cs.takeWhile goesOn
      match word? (String.ofList letters) with
      | some shape => some (shape, cs.drop letters.length)
      | none => (number? cs).map fun (imaginary, rest) => (.number imaginary, rest)

/-- The empty parentheses behind the word `set` make it a set. -/
def called? (enclosed : Bool) : Shape × List Char → Option (Shape × List Char)
  | (.setWord, rest) =>
    match skip enclosed rest with
    | '(' :: rest =>
      match skip true rest with
      | ')' :: rest => some (.loose, rest)
      | _ => none
    | _ => some (.setWord, rest)
  | read => some read

mutual

/-- Read a literal without a sign, `depth` brackets deep. -/
def primary? (depth : Nat) : Nat → List Char → Option (Shape × List Char)
  | 0, _ => none
  | n + 1, cs => do
    let read ← match cs with
      | '(' :: rest => if depth < deepest then round? (depth + 1) n (skip true rest) else none
      | '\x7b' :: rest => if depth < deepest then curly? (depth + 1) n (skip true rest) else none
      | _ => plain? (0 < depth) n cs
    called? (0 < depth) read
termination_by structural fuel => fuel

/-- Read a literal, and pass over the blanks behind it. -/
def value? (depth : Nat) : Nat → List Char → Option (Shape × List Char)
  | 0, _ => none
  | n + 1, cs => do
    let skip := skip (0 < depth)
    let isSign := fun c => c == '+' || c == '-'
    let (shape, rest) ←
      if cs.head?.any isSign then
        match ← primary? depth n (skip cs.tail) with
        | (.number imaginary, rest) => some (.signed imaginary, rest)
        | _ => none
      else primary? depth n cs
    let rest := skip rest
    if rest.head?.any isSign then
      match shape.isReal, ← primary? depth n (skip rest.tail) with
      | true, (.number true, rest) => some (.fixed, skip rest)
      | _, _ => none
    else some (shape, rest)
termination_by structural fuel => fuel

/-- Read what stands in parentheses: nothing, one literal, or a group with commas. -/
def round? (depth : Nat) : Nat → List Char → Option (Shape × List Char)
  | 0, _ => none
  | n + 1, cs =>
    match cs with
    | ')' :: rest => some (.fixed, rest)
    | _ => do
      match ← value? depth n cs with
      | (shape, ')' :: rest) => some (shape, rest)
      | (.setWord, _) => none
      | (shape, ',' :: rest) => do
        let (allFixed, rest) ← members? depth n ')' rest
        some (if shape.isFixed && allFixed then .fixed else .loose, rest)
      | _ => none
termination_by structural fuel => fuel

/-- Read what stands in braces: a dictionary, which may be empty, or a set. -/
def curly? (depth : Nat) : Nat → List Char → Option (Shape × List Char)
  | 0, _ => none
  | n + 1, cs =>
    match cs with
    | '\x7d' :: rest => some (.loose, rest)
    | _ => do
      let (shape, rest) ← value? depth n cs
      if !shape.isFixed then none
      else
        match rest with
        | '\x7d' :: rest => some (.loose, rest)
        | ',' :: rest => do
          let (allFixed, rest) ← members? depth n '\x7d' rest
          if allFixed then some (.loose, rest) else none
        | ':' :: rest => (entries? depth n rest).map (.loose, ·)
        | _ => none
termination_by structural fuel => fuel

/-- Read the literals behind a comma up to a bracket, and whether all are fixed. -/
def members? (depth : Nat) : Nat → Char → List Char → Option (Bool × List Char)
  | 0, _, _ => none
  | n + 1, bracket, cs =>
    match skip true cs with
    | [] => none
    | c :: rest =>
      if c == bracket then some (true, rest)
      else do
        match ← value? depth n (c :: rest) with
        | (.setWord, _) => none
        | (shape, ',' :: rest) => do
          let (allFixed, rest) ← members? depth n bracket rest
          some (shape.isFixed && allFixed, rest)
        | (shape, c :: rest) => if c == bracket then some (shape.isFixed, rest) else none
        | (_, []) => none
termination_by structural fuel => fuel

/-- Read the value of an entry and the entries behind it, up to the brace. -/
def entries? (depth : Nat) : Nat → List Char → Option (List Char)
  | 0, _ => none
  | n + 1, cs => do
    match ← value? depth n (skip true cs) with
    | (.setWord, _) => none
    | (_, '\x7d' :: rest) => some rest
    | (_, ',' :: rest) =>
      match skip true rest with
      | '\x7d' :: rest => some rest
      | rest => do
        match ← value? depth n rest with
        | (key, ':' :: rest) => if key.isFixed then entries? depth n rest else none
        | _ => none
    | _ => none
termination_by structural fuel => fuel

end

/-- Read literals with commas between them up to the end. -/
def isRow : Nat → List Char → Bool
  | 0, _ => false
  | n + 1, cs =>
    match value? 0 n cs with
    | none | some (.setWord, _) => false
    | some (_, ',' :: rest) => isOver rest || isRow n (skip false rest)
    | some (_, rest) => isOver rest

/-- A text is a literal, or several with commas between them. -/
def isLiteral (cs : List Char) : Bool :=
  !cs.contains '\x00' &&
    (opening? (Text.unifyLineEnds cs)).any fun cs => isRow (4 * cs.length + 4) cs

end Rechristen.Literal
