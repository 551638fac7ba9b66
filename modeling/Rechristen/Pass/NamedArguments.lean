import Rechristen.DeclarationTable
import Rechristen.Name.Resolver
import Rechristen.Pass

/-!
# Naming arguments

Arguments of object creations and static calls are given the names of their parameters.  A call is
left alone if any of its arguments is named or unpacked, if its class or method is not known, or if
it has more arguments than there are parameters.  Calls on objects are never touched: the class of
an object is not known.
-/

namespace Rechristen

namespace NamedArguments

/-- The method that creates objects. -/
def constructor_ : String := "__construct"

/-- The method a call names arguments for, if it is of a kind that is named. -/
def methodOf? (call : Call) : Option String :=
  match call.kind with
  | .new_ => some constructor_
  | .static_ => call.method.filter (!·.isEmpty)
  | .method => none

/-- The call has enough arguments and none is named or unpacked. -/
def isPlain (least : Nat) (call : Call) : Bool :=
  decide (least ≤ call.arguments.length) && !call.arguments.any fun a => a.isNamed || a.isUnpacked

/-- The class a call is made on. -/
def classOf? (declarations : List Declaration) (source : Source) (call : Call) : Option Name :=
  match call.relativeScope with
  | some word =>
    match (call.enclosing.bind (source.declarations[·]?)).bind (declarations[·]?) with
    | none => none
    | some d => if word = "parent" then d.parent else some d.name
  | none =>
    (call.classReference.bind (source.references[·]?)).map fun site =>
      (Resolver.ofReferences call.space source.references).resolve site.name

/-- Where parameter names are looked up. -/
structure Lookup where
  table : DeclarationTable
  declarations : List Declaration
  registry : Option Registry
  /-- The fewest arguments that are named. -/
  least : Nat

/-- The names the arguments of a call get. -/
def namesFor? (l : Lookup) (source : Source) (call : Call) : Option (List String) :=
  match methodOf? call with
  | none => none
  | some method =>
    if isPlain l.least call then
      match classOf? l.declarations source call with
      | none => none
      | some name =>
        (l.table.parameters l.declarations l.registry name method).filter fun ps =>
          !ps.isEmpty && decide (call.arguments.length ≤ ps.length)
    else none

/-- Name one argument of a call. -/
def nameArgument (source : Source) (index position : Nat) (argument : Argument)
    (parameter : String) : Attempt Source Unit :=
  (source.replace (Span.point argument.span.start) (parameter ++ ": ")).andThen fun _ source =>
    .success ()
      { source with
        calls := source.calls.modify index fun c =>
          { c with
            arguments := c.arguments.modify position
              ({ · with isNamed := true, name := some parameter }) } }

/-- Name the arguments of a call from `position` on. -/
def nameFrom (source : Source) (index position : Nat) :
    List (Argument × String) → Attempt Source Unit
  | [] => .success () source
  | (argument, parameter) :: rest =>
    (nameArgument source index position argument parameter).andThen fun _ source =>
      nameFrom source index (position + 1) rest

/-- Name the arguments of the calls from `index` on. -/
def nameCalls (source : Source) (index : Nat) : List (Call × Option (List String)) →
    Attempt Source Nat
  | [] => .success 0 source
  | (_, none) :: rest => nameCalls source (index + 1) rest
  | (call, some parameters) :: rest =>
    (nameFrom source index 0 (call.arguments.zip parameters)).andThen fun _ source =>
      (nameCalls source (index + 1) rest).map (1 + ·)

/-- What is reported of a file with named arguments. -/
def namedEvent (path : Path) (count : Nat) : Event :=
  ⟨.debug, "named_arguments_added", [("file", .text path.toString), ("calls", .int count)]⟩

/-- Name the arguments of a file. -/
def pass (l : Lookup) : Pass := fun source =>
  let attempt := nameCalls source 0 (source.calls.map fun c => (c, namesFor? l source c))
  match attempt.result with
  | .ok count =>
    attempt.into fun s =>
      (s, { events := if count = 0 then [] else [namedEvent source.path count] })
  | .error _ => attempt.into (·, {})

end NamedArguments

end Rechristen
