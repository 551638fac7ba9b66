import Rechristen.Name
import Rechristen.Span

/-!
# Calls

A call is an expression with a list of arguments that may be edited: an object creation, a
static call or a call on an object.
-/

namespace Rechristen

/-- What a call does. -/
inductive CallKind where
  /-- Creates an object. -/
  | new_
  /-- Calls a method of a class. -/
  | static_
  /-- Calls a method of an object. -/
  | method
  deriving DecidableEq, Repr

namespace CallKind

/-- The word for a kind. -/
def word : CallKind → String
  | new_ => "new"
  | static_ => "static"
  | method => "method"

/-- The kind a word stands for. -/
def ofWord? (word : String) : Option CallKind :=
  [new_, static_, method].find? (·.word == word)

end CallKind

/-- One argument of a call. -/
structure Argument where
  span : ByteSpan
  /-- It names its parameter. -/
  isNamed : Bool := false
  /-- It stands for any number of arguments. -/
  isUnpacked : Bool := false
  name : Option String := none
  deriving DecidableEq

/-- A call whose argument list may be edited. -/
structure Call where
  kind : CallKind
  /-- Where the argument list stands, with its parentheses. -/
  span : ByteSpan
  arguments : List Argument := []
  /-- The namespace it stands in. -/
  space : Name := ""
  /-- Which reference of the file names the class. -/
  classReference : Option Nat := none
  /-- The word that stands for the class instead of a name. -/
  relativeScope : Option String := none
  /-- Which declaration of the file it stands in. -/
  enclosing : Option Nat := none
  method : Option String := none
  /-- The blanks at the start of the line it starts on. -/
  lineIndent : String := ""
  /-- The argument list takes several lines. -/
  multiline : Bool := false
  hasComments : Bool := false
  deriving DecidableEq

end Rechristen
