import Rechristen.Policy.Scope

/-!
# Diagnostics and advisories

A diagnostic is a message about a place in a file.  An advisory is a rule that finds declarations
that should not be there; it reports them and changes nothing.
-/

namespace Rechristen

/-- How serious a diagnostic is. -/
inductive Severity where
  | info
  | warning
  | error
  deriving DecidableEq, Repr

namespace Severity

/-- The word for a severity. -/
def word : Severity → String
  | info => "info"
  | warning => "warning"
  | error => "error"

/-- The severity a word stands for. -/
def ofWord? (word : String) : Option Severity :=
  [info, warning, error].find? (·.word == word)

end Severity

/-- A message about a place in a file. -/
structure Diagnostic where
  rule : String
  message : String
  path : Option Path := none
  line : Int := 0
  severity : Severity := .warning
  deriving DecidableEq

/-- A rule that reports declarations. -/
structure Advisory where
  name : String
  title : String
  description : String
  message : String
  kinds : List Kind := [.class_]
  scope : Option Scope := none
  severity : Severity := .warning
  deriving DecidableEq

namespace Advisory

/-- What an advisory says about a declaration in a place. -/
def check (a : Advisory) (d : Declaration) (place : Place) : Option Diagnostic :=
  if a.kinds.contains d.kind && a.scope.all (·.hasPlace place) then
    some ⟨a.name, a.message, some d.path, d.line, a.severity⟩
  else none

/-- The advisory in one line. -/
def render (a : Advisory) : String :=
  a.title ++ "(name=" ++ Text.quoted a.name ++ ")"

/-- Actions do not belong in the domain. -/
def domainAction : Advisory where
  name := "domain-action"
  title := "DomainActionAdvisory"
  description := "Domain actions belong in application commands or aggregate methods"
  message :=
    "Domain Actions should be removed. Move logic to Application Commands or Aggregate methods."
  scope := Scope.ofString? "Domain/Action"

/-- All advisories. -/
def catalog : List Advisory := [domainAction]

end Advisory

end Rechristen
