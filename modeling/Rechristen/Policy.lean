import Rechristen.Policy.Rule
import Rechristen.Policy.Scope

/-!
# Naming policies

A policy is a rule for short names together with the declarations it is meant for: those of some
kinds, in a scope, that pass a further test.  A policy never changes anything itself; it says which
name a declaration should have.

The policies of the catalog have tests and rules that are known by name.  Any other function of a
declaration and its place may be a test, too, and any other function of a short name a rule
(`Test.custom`, `Rule.custom`).
-/

namespace Rechristen

/-- What a policy asks of a declaration beside its kind and its place. -/
inductive Test where
  /-- Nothing. -/
  | any
  /-- It is abstract. -/
  | abstract_
  /-- It extends an exception. -/
  | exception
  /-- It is not abstract and not the common root of all aggregates. -/
  | aggregate
  /-- Anything else that can be told from it and from its place. -/
  | custom (accepts : Declaration → Place → Bool)

namespace Test

/-- The ending of exception names. -/
def exceptionEnding : String := "Exception"

/-- The classes all exceptions descend from. -/
def exceptionBases : List String := ["Exception", "Throwable"]

/-- Whether a name is that of an exception. -/
def isExceptionName (name : Name) : Bool :=
  Text.ends name exceptionEnding || exceptionBases.contains name ||
    exceptionBases.any fun base => Text.ends name (String.singleton Name.separator ++ base)

/-- Whether a declaration extends an exception, by what is known and by what is written of it. -/
def extendsException (d : Declaration) : Bool :=
  ([d.parent, d.parentWritten].filterMap id).any fun name =>
    !name.isEmpty && isExceptionName name.normalize

/-- The common root of all aggregates. -/
def aggregateRoot : String := "AbstractAggregateRoot"

/-- Whether a declaration in a place passes. -/
def passes : Test → Declaration → Place → Bool
  | any, _, _ => true
  | abstract_, d, _ => d.isAbstract
  | exception, d, _ => extendsException d
  | aggregate, d, _ => !d.isAbstract && d.shortName != aggregateRoot
  | custom accepts, d, place => accepts d place

end Test

/-- A naming convention. -/
structure Policy where
  /-- The name it has in settings and reports. -/
  name : String
  /-- The name of the convention as a type of rule. -/
  title : String := ""
  description : String := ""
  kinds : List Kind := [.class_]
  /-- Where it holds; everywhere if there is none. -/
  scope : Option Scope := none
  /-- References in the file of a renamed declaration are respelled at once. -/
  eager : Bool := false
  test : Test := .any
  rule : Rule

namespace Policy

/-- The policy is meant for a declaration in a place. -/
def appliesTo (p : Policy) (d : Declaration) (place : Place) : Bool :=
  p.kinds.contains d.kind && p.scope.all (·.hasPlace place) && p.test.passes d place

/-- The policy holds in the namespace of a name. -/
def holdsAt (p : Policy) (name : Name) : Bool :=
  p.scope.all (·.hasName name)

/-- The name a short name should have. -/
def transform (p : Policy) (name : String) : Option String :=
  p.rule.transform name

/-- A new name that differs from the old one. -/
def newName? (p : Policy) (name : String) : Option String :=
  (p.transform name).filter (· ≠ name)

/-- The new name a declaration should get. -/
def tryRename (p : Policy) (d : Declaration) (place : Place) : Option String :=
  if p.appliesTo d place then p.newName? d.shortName else none

/-- The new text a reference or an alias should get at once. -/
def renameReference (p : Policy) (name : String) : Option String :=
  if p.eager then p.newName? name else none

/-- The policy in one line. -/
def render (p : Policy) : String :=
  p.title ++ "(name=" ++ Text.quoted p.name ++ ", scope=" ++
    ((p.scope.map Scope.render).getD "None") ++ ")"

/-- The technologies a repository policy knows. -/
def known (p : Policy) : List String :=
  match p.rule with
  | .repository _ known => known
  | _ => []

end Policy

end Rechristen
