import Rechristen.Name.Resolver
import Rechristen.Pass
import Rechristen.Registry

/-!
# Fixing references

When every declaration has its name, all references are brought up to date with the registry.
What an import imports gets the new qualified name, or the part of it that follows the beginning of
its group.  A bare name gets the new short name, unless it is an alias.  A qualified name keeps
everything before its last segment as long as the class stays in its namespace, and is written in
full otherwise.
-/

namespace Rechristen

namespace References

/-- What becomes of one reference. -/
inductive Fix where
  /-- It is right as it stands. -/
  | keep
  /-- It is written like this from now on. -/
  | respell (name : Name)
  /-- The new name cannot be written where the reference stands. -/
  | inexpressible (new group : Name)
  deriving DecidableEq

/-- A new text for a reference, if it differs from what is written. -/
def Fix.ofText (written text : Name) : Fix :=
  if text = written then .keep else .respell text

/-- What becomes of an import. -/
def fixImport (registry : Registry) (site : Reference) : Fix :=
  match registry.lookup site.imported with
  | none => .keep
  | some new =>
    match site.group? with
    | some group =>
      let group : Name := Text.trim Name.isSeparator group
      if Text.begins new.key.text (group.key.text ++ String.singleton Name.separator) then
        .ofText site.name (Text.dropStart new (group.length + 1))
      else .inexpressible new group
    | none =>
      if Text.begins site.name (String.singleton Name.separator) then
        .ofText site.name (String.singleton Name.separator ++ new)
      else .ofText site.name new

/-- What becomes of a bare name. -/
def fixBare (registry : Registry) (resolver : Resolver) (site : Reference) : Fix :=
  if site.name.isRelativeScope || resolver.isAliased site.name then .keep
  else
    match registry.lookup (resolver.resolve site.name) with
    | none => .keep
    | some new => .ofText site.name new.short

/-- What becomes of a qualified name. -/
def fixQualified (registry : Registry) (resolver : Resolver) (site : Reference) : Fix :=
  let old := resolver.resolve site.name
  match registry.lookup old with
  | none => .keep
  | some new =>
    if old.space.key ≠ new.space.key then .respell (String.singleton Name.separator ++ new)
    else if new.short = (Text.cutLast Name.separator site.name).2 then .keep
    else .respell (site.name.withLast new.short)

/-- What becomes of a reference, read with the imports of its namespace. -/
def fixOf (registry : Registry) (resolver : Name → Resolver) (site : Reference) : Fix :=
  match site.kind with
  | .import_ => fixImport registry site
  | .bare => fixBare registry (resolver site.space) site
  | .qualified => fixQualified registry (resolver site.space) site

/-- What is told of a reference that cannot be fixed. -/
def inexpressibleNotes (source : Source) (site : Reference) (new group : Name) : Notes :=
  let line := source.lineAt site.span.start
  let message :=
    "Cannot express " ++ new ++ " inside group use " ++ group ++ "\\\x7b...\x7d"
  { diagnostics := [⟨"reference-fixer", message, some source.path, line, .warning⟩]
    events :=
      [⟨.warning, "reference_not_fixed",
        [("file", .text source.path.toString), ("line", .int line), ("reason", .text message)]⟩] }

/-- Fix the references from `index` on, one after the other. -/
def fixFrom (source : Source) (index : Nat) : List (Reference × Fix) →
    Attempt (Source × Notes) Nat
  | [] => .success 0 (source, {})
  | (_, .keep) :: rest => fixFrom source (index + 1) rest
  | (site, .inexpressible new group) :: rest =>
    (fixFrom source (index + 1) rest).into fun (source, notes) =>
      (source, inexpressibleNotes source site new group ++ notes)
  | (_, .respell name) :: rest =>
    ((source.respellReference index name).into (·, ({} : Notes))).andThen fun _ (source, _) =>
      (fixFrom source (index + 1) rest).map (1 + ·)

/-- What is reported of a file with fixed references. -/
def fixedEvent (path : Path) (count : Nat) : Event :=
  ⟨.debug, "references_fixed", [("file", .text path.toString), ("count", .int count)]⟩

/-- Fix the references of a file.  All names are read with the imports as they were before. -/
def fix (registry : Registry) : Pass := fun source =>
  let resolver space := Resolver.ofReferences space source.references
  let attempt := fixFrom source 0 (source.references.map fun r => (r, fixOf registry resolver r))
  match attempt.result with
  | .ok count =>
    if count = 0 then attempt
    else attempt.into fun (s, notes) => (s, notes ++ { events := [fixedEvent source.path count] })
  | .error _ => attempt

/-- Fix the references of all files.  Without renames there is nothing to do. -/
def fixAll (registry : Registry) (sources : List Source) : Attempt (List Source × Notes) Nat :=
  if registry.size = 0 then .success 0 (sources, {}) else (fix registry).overAll sources

end References

end Rechristen
