import Rechristen.Text.Affix
import Std.Data.TreeSet.Basic

/-!
# Naming rules

A rule turns a short name into the name it should have, or finds nothing to change.  The rules of
the catalog are about how names begin and end; only queries are taken apart further.  A policy that
is not in the catalog may bring any rule.
-/

namespace Rechristen

/-- An ending and what takes its place. -/
structure Replacement where
  old : String
  new : String
  deriving DecidableEq, Repr

namespace Replacement

/-- The name with the ending replaced, if it has it and something is left.  The empty ending stands
for the whole name. -/
def on? (r : Replacement) (name : String) : Option String :=
  if Text.ends name r.old then
    let replaced := (if r.old.isEmpty then "" else Text.dropEnd name r.old.length) ++ r.new
    if replaced.isEmpty then none else some replaced
  else none

end Replacement

/-- A table of endings, and the ending a name gets that has none of them. -/
structure EndingTable where
  replacements : List Replacement
  fallback : Option String := none
  deriving DecidableEq, Repr

namespace EndingTable

/-- One step: the first ending of the table that can be replaced, or else the fallback. -/
def step? (t : EndingTable) (name : String) : Option String :=
  match t.replacements.findSome? (·.on? name) with
  | some replaced => some replaced
  | none =>
    match t.fallback with
    | some ending => if Text.ends name ending then none else some (name ++ ending)
    | none => none

/-- Repeat steps until none is possible or a name comes back.  `limit` bounds the number of steps:
a table whose endings grow could go on for ever. -/
def settle (t : EndingTable) : Nat → Std.TreeSet String → String → String
  | 0, _, name => name
  | limit + 1, seen, name =>
    match t.step? name with
    | none => name
    | some next => if next ∈ seen then name else t.settle limit (seen.insert next) next

/-- The number of steps tried on a name.  A table whose endings shrink needs fewer than the name has
characters; one whose endings grow can need many more, and the limit is out of reach for any that
ends at all. -/
def stepLimit (name : String) : Nat :=
  name.length + Nat.pow 2 64

/-- The name after all steps, if it differs. -/
def transform (t : EndingTable) (name : String) : Option String :=
  let settled := t.settle (stepLimit name) {name} name
  if settled = name then none else some settled

end EndingTable

/-- The name with an ending dropped as often as it stands there, but never the whole name. -/
def dropAll (ending : String) (name : String) : String :=
  if Text.ends name ending ∧ name ≠ ending ∧ 0 < ending.length ∧ ending.length ≤ name.length then
    dropAll ending (Text.dropEnd name ending.length)
  else name
termination_by name.length
decreasing_by
  rename_i h
  simp only [Text.dropEnd, String.length_ofList, List.length_take, String.length_toList]
  omega

namespace Query

/-- Queries whose new names are agreed upon. -/
def agreed : List (String × String) := [
  ("ValidateUserHierarchyQuery", "GetUserHierarchyValidationQuery"),
  ("ValidateMetadataQuery", "GetMetadataValidationQuery"),
  ("CalculateRateQuery", "GetRateCalculationQuery"),
  ("CalculateBulkRatesQuery", "GetBulkRatesCalculationQuery"),
  ("IsAssignedToUserQuery", "GetUserAssignmentQuery"),
  ("IsAssignedToTeamQuery", "GetTeamAssignmentQuery"),
  ("IsAssignedToOrganizationQuery", "GetOrganizationAssignmentQuery"),
  ("CheckBusinessUnitAssignmentLimitQuery", "GetBusinessUnitAssignmentLimitQuery")]

/-- Verbs a query may begin with, and the nouns for what they ask. -/
def verbs : List (String × String) :=
  [("Validate", "Validation"), ("Calculate", "Calculation"), ("Check", "Check"), ("Is", "Status")]

/-- What stands between a verb and the ending of a query: one line and not nothing. -/
def subject? (verb name : String) : Option String :=
  if Text.begins name verb && Text.ends name "Query" then
    let middle := Text.dropEnd (Text.dropStart name verb.length) 5
    if verb.length + 5 < name.length && !middle.toList.contains '\n' then some middle else none
  else none

/-- The name of a query: one that begins with `Get`. -/
def transform (name : String) : Option String :=
  if !Text.ends name "Query" || Text.begins name "Get" then none
  else
    match agreed.lookup name with
    | some new => some new
    | none =>
      match verbs.findSome? fun v =>
          (subject? v.1 name).map fun s => "Get" ++ s ++ v.2 ++ "Query" with
      | some new => some new
      | none => some ("Get" ++ name)

end Query

/-- How short names are changed. -/
inductive Rule where
  /-- The name ends with a word. -/
  | ending (word : String)
  /-- The name begins with a word. -/
  | beginning (word : String)
  /-- Endings are replaced by a table; some names are exempt. -/
  | endings (table : EndingTable) (exempt : List String)
  /-- The ending `Value` is dropped, except from identifiers. -/
  | valueObject
  /-- A repository begins with a technology, this one unless it has one of those known. -/
  | repository (technology : String) (known : List String)
  /-- A query begins with `Get`. -/
  | query
  /-- Any other rule. -/
  | custom (change : String → Option String)

namespace Rule

/-- The name a short name should have, or nothing if it will do. -/
def transform : Rule → String → Option String
  | ending word, name => if Text.ends name word then none else some (name ++ word)
  | beginning word, name => if Text.begins name word then none else some (word ++ name)
  | endings table exempt, name => if name ∈ exempt then none else table.transform name
  | valueObject, name =>
    let stem := dropAll "Value" name
    if stem = name || Text.ends stem "Id" then none else some stem
  | repository technology known, name =>
    if !Text.ends name "Repository" || known.any (Text.begins name) then none
    else some (technology ++ name)
  | query, name => Query.transform name
  | custom change, name => change name

end Rule

end Rechristen
