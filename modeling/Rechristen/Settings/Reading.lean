import Rechristen.Settings
import Rechristen.Settings.Coercion

/-!
# Reading settings

Settings are read field by field, in the order of their declaration.  What does not fit is a
complaint with the place where it stands, and all complaints are reported together.  An unknown key
is a complaint at the top and passed over inside a section.
-/

namespace Rechristen

/-- A datum that does not fit, and where. -/
structure Complaint where
  place : List String
  mismatch : Mismatch
  deriving DecidableEq, Repr

namespace Complaint

/-- A complaint seen from outside a section. -/
def below (name : String) (c : Complaint) : Complaint :=
  { c with place := name :: c.place }

/-- The place of a complaint as one text. -/
def location (c : Complaint) : String :=
  ".".intercalate c.place

end Complaint

/-- A value that was read, and the complaints on the way.  The value stands for itself only if there
are none. -/
structure Reading (α : Type) where
  value : α
  complaints : List Complaint := []

/-- How a value is read off a datum. -/
abbrev Reader (α : Type) := Datum → Except (List Complaint) α

namespace Reader

/-- A value that is read as a whole. -/
def whole {α : Type} (coerce : Datum → Except Mismatch α) : Reader α := fun d =>
  match coerce d with
  | .ok a => .ok a
  | .error m => .error [⟨[], m⟩]

/-- The complaints about the items of a list of texts, from an index on. -/
def complaintsFrom : Nat → List Datum → List Complaint
  | _, [] => []
  | i, d :: rest =>
    match Coercion.text d with
    | .ok _ => complaintsFrom (i + 1) rest
    | .error m => ⟨[toString i], m⟩ :: complaintsFrom (i + 1) rest

/-- The items of what is taken for a list. -/
def items? : Datum → Option (List Datum)
  | .list items => some items
  | .group members => some members
  | .pair first second => some [first, second]
  | _ => none

/-- A list of texts. -/
def texts : Reader (List String) := fun d =>
  match items? d with
  | none => .error [⟨[], .notList⟩]
  | some items =>
    match complaintsFrom 0 items with
    | [] => .ok (items.filterMap fun d => (Coercion.text d).toOption)
    | complaints => .error complaints

/-- A list of texts, or nothing. -/
def maybeTexts : Reader (Option (List String))
  | .null => .ok none
  | d => (texts d).map some

/-- A section, given how its fields are read. -/
def section_ {α : Type} (read : (String → Option Datum) → Reading α) : Reader α
  | .mapping entries =>
    let r := read fun name => Datum.entry? entries (.text name)
    if r.complaints.isEmpty then .ok r.value else .error r.complaints
  | _ => .error [⟨[], .notSection⟩]

end Reader

/-- A field, which has a default if nothing is given. -/
def Reading.field {α : Type} (given : String → Option Datum) (name : String) (default : α)
    (read : Reader α) : Reading α :=
  match given name with
  | none => ⟨default, []⟩
  | some d =>
    match read d with
    | .ok a => ⟨a, []⟩
    | .error complaints => ⟨default, complaints.map (·.below name)⟩

open Reading Reader

/-- The section on files. -/
def DiscoverySettings.read (given : String → Option Datum) : Reading DiscoverySettings :=
  let base : DiscoverySettings := {}
  let extensions := field given "extensions" base.extensions texts
  let excludeDirs := field given "exclude_dirs" base.excludeDirs texts
  let maxFileSize := field given "max_file_size_bytes" base.maxFileSize
    (whole (Coercion.numberBetween 1000 100000000))
  { value := ⟨extensions.value, excludeDirs.value, maxFileSize.value⟩
    complaints := extensions.complaints ++ excludeDirs.complaints ++ maxFileSize.complaints }

/-- The section on policies. -/
def PolicySettings.read (given : String → Option Datum) : Reading PolicySettings :=
  let base : PolicySettings := {}
  let enabled := field given "enabled" base.enabled maybeTexts
  let disabled := field given "disabled" base.disabled texts
  let technology := field given "repository_prefix" base.technology (whole Coercion.someText)
  let advisories := field given "advisories" base.advisories (whole Coercion.truth)
  { value := ⟨enabled.value, disabled.value, technology.value, advisories.value⟩
    complaints := enabled.complaints ++ disabled.complaints ++ technology.complaints ++
      advisories.complaints }

/-- The section on arguments. -/
def ArgumentSettings.read (given : String → Option Datum) : Reading ArgumentSettings :=
  let base : ArgumentSettings := {}
  let count := whole (Coercion.numberBetween 1 50)
  let enforceNamed := field given "enforce_named" base.enforceNamed (whole Coercion.truth)
  let minNamed := field given "min_named_arguments" base.minNamed count
  let formatMultiline := field given "format_multiline" base.formatMultiline (whole Coercion.truth)
  let minMultiline := field given "min_multiline_arguments" base.minMultiline count
  let indent := field given "indent" base.indent (whole Coercion.text)
  { value := ⟨enforceNamed.value, minNamed.value, formatMultiline.value, minMultiline.value,
      indent.value⟩
    complaints := enforceNamed.complaints ++ minNamed.complaints ++ formatMultiline.complaints ++
      minMultiline.complaints ++ indent.complaints }

/-- The section on events. -/
def LoggingSettings.read (given : String → Option Datum) : Reading LoggingSettings :=
  let base : LoggingSettings := {}
  let level := field given "level" base.level (whole Coercion.text)
  let format := field given "format" base.format (whole (Coercion.textAmong ["console", "json"]))
  { value := ⟨level.value, format.value⟩, complaints := level.complaints ++ format.complaints }

namespace Settings

/-- A dry run or not, from its word. -/
def dryRunOfWord? (word : String) : Option Bool :=
  [false, true].find? fun dryRun => modeWord dryRun == word

/-- The names at the top of the settings, in order. -/
def topNames : List String :=
  ["mode", "collision_policy", "skip_files_with_errors", "discovery", "policies", "arguments",
    "logging"]

/-- The complaints about names that are not known. -/
def unknownNames (fields : Fields) : List Complaint :=
  (fields.filter fun f => !topNames.contains f.1).map fun f => ⟨[f.1], .unknownKey⟩

/-- Read settings off fields. -/
def ofFields (fields : Fields) : Except (List Complaint) Settings :=
  let given := fun name => fields.lookup name
  let dryRun := field given "mode" false (whole (Coercion.choice dryRunOfWord?))
  let collision := field given "collision_policy" .firstWins
    (whole (Coercion.choice CollisionPolicy.ofWord?))
  let skip := field given "skip_files_with_errors" true (whole Coercion.truth)
  let discovery := field given "discovery" {} (section_ DiscoverySettings.read)
  let policies := field given "policies" {} (section_ PolicySettings.read)
  let arguments := field given "arguments" {} (section_ ArgumentSettings.read)
  let logging := field given "logging" {} (section_ LoggingSettings.read)
  let complaints := dryRun.complaints ++ collision.complaints ++ skip.complaints ++
    discovery.complaints ++ policies.complaints ++ arguments.complaints ++ logging.complaints ++
    unknownNames fields
  if complaints.isEmpty then
    .ok ⟨dryRun.value, collision.value, skip.value, discovery.value, policies.value,
      arguments.value, logging.value⟩
  else .error complaints

end Settings

end Rechristen
