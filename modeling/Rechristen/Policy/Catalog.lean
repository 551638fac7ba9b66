import Rechristen.Policy

/-!
# The catalog of policies

The policies of a run, in the order in which their passes are made: the conventions for kinds of
declarations first, then those of the parts of an application.  A declaration may be renamed by
several passes.
-/

namespace Rechristen

namespace Policy

/-- The scope of a catalog policy. -/
def scopeOf (written : String) : Option Scope :=
  Scope.ofString? written

/-- A table of endings without a fallback. -/
def endingTable (replacements : List (String × String)) : EndingTable :=
  { replacements := replacements.map fun r => ⟨r.1, r.2⟩ }

/-- Abstract classes begin with `Abstract`. -/
def abstractBeginning : Policy where
  name := "abstract-prefix"
  title := "AbstractPrefixPolicy"
  description := "Abstract classes start with 'Abstract'"
  test := .abstract_
  rule := .beginning "Abstract"

/-- Interfaces end with `Interface`. -/
def interfaceEnding : Policy where
  name := "interface-suffix"
  title := "InterfaceSuffixPolicy"
  description := "Interfaces end with 'Interface'"
  kinds := [.interface]
  rule := .ending "Interface"

/-- Traits end with `Trait`. -/
def traitEnding : Policy where
  name := "trait-suffix"
  title := "TraitSuffixPolicy"
  description := "Traits end with 'Trait'"
  kinds := [.trait]
  rule := .ending "Trait"

/-- Classes with an exception for a parent end like it. -/
def exceptionEnding : Policy where
  name := "exception-suffix"
  title := "ExceptionSuffixPolicy"
  description := "Classes extending an exception end with 'Exception'"
  test := .exception
  rule := .ending Test.exceptionEnding

/-- Value objects are called what they are, without `Value`. -/
def valueObject : Policy where
  name := "value-object"
  title := "ValueObjectPolicy"
  description := "Value objects drop the 'Value' suffix"
  scope := scopeOf "ValueObject"
  eager := true
  rule := .valueObject

/-- The technologies a repository may begin with. -/
def technologies : List String :=
  ["Eloquent", "Redis", "Memory", "InMemory", "File", "Database", "Cache", "Cached", "Mock", "Fake",
    "Stub", "Null"]

/-- Repositories begin with a technology; the one they get is known as well. -/
def repository (technology : String) (known : List String) : Policy where
  name := "repository-implementation"
  title := "RepositoryImplementationPolicy"
  description := "Repository implementations carry a technology prefix"
  scope := scopeOf "Infrastructure/Repository"
  eager := true
  rule := .repository technology (known ++ [technology]).eraseDups

/-- Specifications end with that word in full. -/
def specification : Policy where
  name := "specification"
  title := "SpecificationPolicy"
  description := "Specifications end with 'Specification'"
  scope := scopeOf "Specification"
  eager := true
  rule := .endings
    { endingTable [("Spec", "Specification"), ("Rule", "Specification")] with
      fallback := some "Specification" } []

/-- Queries begin with `Get`. -/
def query : Policy where
  name := "query"
  title := "QueryPolicy"
  description := "Queries start with 'Get'"
  scope := scopeOf "Application/Query"
  eager := true
  rule := .query

/-- Read models are called after what is read. -/
def readModel : Policy where
  name := "read-model"
  title := "ReadModelPolicy"
  description := "Read models drop the 'ReadModel' suffix"
  scope := scopeOf "ReadModel"
  eager := true
  rule := .endings (endingTable [("ReadModel", "")]) []

/-- Services do not say which layer they serve. -/
def serviceEnding : Policy where
  name := "service-suffix"
  title := "ServiceSuffixPolicy"
  description := "'DomainService'/'ApplicationService' become 'Service'"
  scope := scopeOf "Service"
  eager := true
  rule := .endings
    (endingTable [("DomainService", "Service"), ("ApplicationService", "Service")]) []

/-- Objects that carry data end with `Data`. -/
def dataTransferObject : Policy where
  name := "data-transfer-object"
  title := "DataTransferObjectPolicy"
  description := "Data transfer objects end with 'Data'"
  scope := scopeOf "DataTransferObject"
  eager := true
  rule := .endings
    { endingTable [("DataTransferObject", "Data"), ("DTO", "Data")] with
      fallback := some "Data" } []

/-- Aggregates do not say that they are roots. -/
def aggregate : Policy where
  name := "aggregate"
  title := "AggregatePolicy"
  description := "Aggregate roots are named '...Aggregate'"
  scope := scopeOf "Domain/Aggregate"
  eager := true
  test := .aggregate
  rule := .endings (endingTable [("AggregateRoot", "Aggregate")]) [Test.aggregateRoot]

/-- Contracts of directories are called contracts of providers. -/
def directoryProvider : Policy where
  name := "directory-provider"
  title := "DirectoryProviderPolicy"
  description := "'DirectoryInterface' contracts become 'ProviderInterface'"
  kinds := [.interface]
  scope := scopeOf "SharedKernel/Domain/Contract"
  eager := true
  rule := .endings (endingTable [("DirectoryInterface", "ProviderInterface")]) []

/-- The technology repositories get unless the settings say otherwise. -/
def defaultTechnology : String := "Eloquent"

/-- All policies, in the order of their passes, with a technology for repositories. -/
def catalogWith (technology : String) : List Policy :=
  [abstractBeginning, interfaceEnding, traitEnding, exceptionEnding, valueObject,
    repository technology technologies, specification, query, readModel, serviceEnding,
    dataTransferObject, aggregate, directoryProvider]

/-- All policies, in the order of their passes. -/
def catalog : List Policy :=
  catalogWith defaultTechnology

/-- The names of all policies. -/
def catalogNames : List String :=
  catalog.map Policy.name

/-- The policy with a name. -/
def ofName? (name : String) : Option Policy :=
  catalog.find? (·.name == name)

end Policy

end Rechristen
