import Rechristen.Text.Codes

/-!
# Tokens of a configuration file

The layout of a configuration file is part of its meaning: deeper indentation opens a block, and
less closes it.  Scanning makes this explicit.  The tokens name the starts and ends of blocks, so
that what follows need not look at columns any more.
-/

namespace Rechristen.Yaml

/-- The tokens of a configuration file. -/
inductive Token where
  /-- The version of the format, by its first number. -/
  | version (major : Nat)
  /-- What a handle in tags stands for. -/
  | handle (name meaning : String)
  /-- A directive without a meaning. -/
  | directive
  | documentStart
  | documentEnd
  | sequenceBlock
  | mappingBlock
  | blockEnd
  | openList
  | closeList
  | openMapping
  | closeMapping
  | item
  | separator
  | key
  | value
  /-- The name under which the next node can be repeated. -/
  | anchor (name : String)
  /-- The repetition of a node. -/
  | repetition (name : String)
  /-- The kind of the next node: a handle, if there is one, and the rest of the name. -/
  | tag (handle : Option String) (rest : String)
  | scalar (text : Text.Codes) (plain : Bool)
  | fileEnd
  deriving DecidableEq, Repr

/-! ## Classes of characters -/

/-- The characters that end a line. -/
def isBreak (c : Char) : Bool :=
  c == '\n' || c == '\r' || c == '\x85' || c == '\u2028' || c == '\u2029'

/-- The characters that separate: blanks, tabs, line ends and the end of the file, which is read as
a null character. -/
def isGap (c : Char) : Bool :=
  c == '\x00' || c == ' ' || c == '\t' || isBreak c

/-- The characters with a meaning inside brackets. -/
def isFlowMark (c : Char) : Bool :=
  c == ',' || c == '[' || c == ']' || c == '\x7b' || c == '\x7d'

/-- The characters that cannot begin a plain scalar. -/
def indicators : List Char :=
  ['-', '?', ':', ',', '[', ']', '\x7b', '\x7d', '#', '&', '*', '!', '|', '>', '\'', '"', '%', '@',
    '\x60']

/-- The characters a configuration file may hold. -/
def isAllowed (c : Char) : Bool :=
  let n := c.toNat
  n == 0x9 || n == 0xa || n == 0xd || (0x20 ≤ n && n ≤ 0x7e) || n == 0x85 ||
    (0xa0 ≤ n && n ≤ 0xfffd) || 0x10000 ≤ n

/-- The characters of the names of anchors, handles and directives. -/
def isWordMark (c : Char) : Bool :=
  c.isAlphanum || c == '-' || c == '_'

end Rechristen.Yaml
