import Rechristen.Name.Resolver
import Rechristen.Policy
import Rechristen.Session
import Rechristen.Source

/-!
# References in the file of a renamed declaration

An eager policy respells the references of the file in which it renamed a declaration, without
waiting for the other files.  It touches what the session knows: classes that were renamed and
classes that are declared, in the scope of the policy.  A declaration that was not renamed yet is
given the name the policy would choose for it, unless that name is taken.  Aliases follow the policy
on their own.
-/

namespace Rechristen

namespace Session

/-- The session knows the class and the policy holds where it lives. -/
def isLocalTarget (s : Session) (p : Policy) (name : Name) : Bool :=
  p.holdsAt name && (s.registry.contains name || s.table.contains name)

/-- Another declaration than the one called `name` is called `guess`. -/
def isTakenBeside (s : Session) (name guess : Name) : Bool :=
  match s.table.get? guess with
  | none => false
  | some owner => s.table.get? name != some owner

/-- The short name for a reference to `name` that is written `current`. -/
def targetShort (s : Session) (p : Policy) (name current : Name) : Option Name :=
  match p.renameReference current with
  | none => none
  | some short =>
    match s.registry.lookup name with
    | some target => some target.short
    | none =>
      let guess := Name.qualify name.space short
      if s.isTakenBeside name guess || s.registry.isTarget guess then none else some short

/-- The reference with another last segment, if that is one. -/
def withShort (written : Name) (short : Option Name) : Option Name :=
  (short.filter (· ≠ written.short)).map written.withLast

/-- What an eager policy makes of one reference. -/
def localRewording (s : Session) (p : Policy) (resolver : Name → Resolver) (site : Reference) :
    Source.Rewording :=
  if site.kind = .import_ then
    if s.isLocalTarget p site.imported then
      { name := withShort site.name (s.targetShort p site.imported site.name.short)
        aliasName := site.alias?.bind p.renameReference }
    else {}
  else if site.name.isRelativeScope then {}
  else
    let r := resolver site.space
    let name := r.resolve site.name
    if s.isLocalTarget p name then
      let short :=
        if r.isAliased site.name && !site.name.isCompound then p.renameReference site.name.short
        else s.targetShort p name site.name.short
      { name := withShort site.name short }
    else {}

/-- What is reported of respelled references. -/
def localEvent (p : Policy) (path : Path) (count : Nat) : Event :=
  ⟨.debug, "local_references_rewritten",
    [("policy", .text p.name), ("file", .text path.toString), ("count", .int count)]⟩

/-- Respell the references of a file for an eager policy.  All names are read with the imports as
they were before. -/
def respellLocal (s : Session) (source : Source) (p : Policy) : Attempt (Session × Source) Unit :=
  let resolver space := Resolver.ofReferences space source.references
  let attempt := source.rewordAll (source.references.map (s.localRewording p resolver))
  match attempt.result with
  | .ok count =>
    .success () (if count = 0 then s else s.note [localEvent p source.path count], attempt.state)
  | .error cause => .failure cause (s, attempt.state)

end Session

end Rechristen
