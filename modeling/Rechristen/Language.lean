import Rechristen.Log.Event
import Rechristen.Path
import Rechristen.SyntaxTree
import Rechristen.Text.Case
import Rechristen.Text.Encoding

/-!
# Languages

The language of a file is told from its suffix.  A language can be read if its grammar is at hand;
further names can be given to it.  Names of languages are looked up in lower case.
-/

namespace Rechristen

/-- What a parser makes of the content of a file. -/
abbrev Parser := Bytes → Option SyntaxTree

/-- The names under which languages can be read, each with its grammar. -/
structure Languages where
  names : List (String × String) := []
  deriving DecidableEq

namespace Languages

/-- The grammars at hand. -/
def grammars : List String := ["php"]

/-- The languages with one name more. -/
def put (l : Languages) (name grammar : String) : Languages :=
  ⟨l.names.filter (·.1 ≠ name) ++ [(name, grammar)]⟩

/-- What is reported when a language is registered. -/
inductive Registered where
  | loaded (language : String) (further : List String)
  | failed (language : String)
  deriving DecidableEq, Repr

/-- Register a language under its name and further names, if its grammar is at hand. -/
def register (l : Languages) (name : String) (further : List String) : Registered × Languages :=
  if grammars.contains name then
    (.loaded name further, (name :: further).foldl (·.put · name) l)
  else (.failed name, l)

/-- The languages known without further ado. -/
def known : Languages :=
  (register {} "php" []).2

/-- A language can be read. -/
def supports (l : Languages) (language : String) : Bool :=
  (l.names.lookup (Text.lowercase language)).isSome

/-- The suffixes of source files. -/
def suffixes : List (String × String) := [(".php", "php"), (".phtml", "php")]

/-- The language of a file. -/
def detect? (p : Path) : Option String :=
  suffixes.lookup (Text.lowercase p.suffix)

end Languages

end Rechristen
