import Rechristen.Advisory
import Rechristen.Failure
import Rechristen.MovePlan
import Rechristen.Policy.Catalog

/-!
# Settings

What a run can be told: whether files are written, which files it looks at, which policies are
followed, how arguments are treated and how events are shown.
-/

namespace Rechristen

/-- Which files a run looks at. -/
structure DiscoverySettings where
  /-- The suffixes of source files. -/
  extensions : List String := [".php"]
  /-- Directories, relative to the root of the run or by name alone, that are not entered. -/
  excludeDirs : List String := ["vendor", "node_modules", ".git", "storage", "bootstrap/cache"]
  /-- Files of more bytes are passed over. -/
  maxFileSize : Int := 2000000
  deriving DecidableEq

/-- Which policies are followed. -/
structure PolicySettings where
  /-- The policies to follow; all if nothing is said. -/
  enabled : Option (List String) := none
  disabled : List String := []
  /-- The technology repositories get. -/
  technology : String := Policy.defaultTechnology
  /-- Advisories are given. -/
  advisories : Bool := true
  deriving DecidableEq

/-- How arguments are treated. -/
structure ArgumentSettings where
  enforceNamed : Bool := true
  /-- The fewest arguments that are named. -/
  minNamed : Int := 2
  formatMultiline : Bool := true
  /-- The fewest arguments of a list that is laid out. -/
  minMultiline : Int := 3
  indent : String := "    "
  deriving DecidableEq

/-- How events are shown. -/
structure LoggingSettings where
  level : String := "INFO"
  format : String := "console"
  deriving DecidableEq

/-- The settings of a run. -/
structure Settings where
  /-- Nothing is written and no file is moved. -/
  dryRun : Bool := false
  collision : CollisionPolicy := .firstWins
  /-- Files with syntax errors are passed over. -/
  skipFilesWithErrors : Bool := true
  discovery : DiscoverySettings := {}
  policies : PolicySettings := {}
  arguments : ArgumentSettings := {}
  logging : LoggingSettings := {}
  deriving DecidableEq

namespace Settings

/-- The word for the mode of a run. -/
def modeWord (dryRun : Bool) : String :=
  if dryRun then "dry-run" else "apply"

/-- The names of the advisories. -/
def advisoryNames : List String :=
  Advisory.catalog.map Advisory.name

/-- Texts in order. -/
def sortTexts (texts : List String) : List String :=
  texts.mergeSort fun a b => decide (a ≤ b)

/-- The first name in the settings that is neither a policy nor an advisory. -/
def unknownPolicy? (s : Settings) : Option String :=
  (s.policies.enabled.getD [] ++ s.policies.disabled).find? fun name =>
    !advisoryNames.contains name && !Policy.catalogNames.contains name

/-- A policy is to be followed. -/
def follows (s : Settings) (name : String) : Bool :=
  s.policies.enabled.all (·.contains name) && !s.policies.disabled.contains name

/-- The policies to follow, in the order of their passes. -/
def followedPolicies (s : Settings) : Except Failure (List Policy) :=
  match s.unknownPolicy? with
  | some name => .error (.unknownPolicy name (sortTexts Policy.catalogNames))
  | none => .ok ((Policy.catalogWith s.policies.technology).filter fun p => s.follows p.name)

/-- The advisories to give. -/
def followedAdvisories (s : Settings) : List Advisory :=
  if s.policies.advisories then Advisory.catalog.filter fun a => s.follows a.name else []

end Settings

end Rechristen
