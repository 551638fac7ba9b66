import Rechristen.Fault
import Rechristen.Json
import Rechristen.Settings.Reading
import Rechristen.Text.Case

/-!
# Settings in the environment

A variable gives one setting: its name is the program's followed by the name of the setting, in any
case.  A section is given whole, in JSON, or field by field, with two underscores between the names
of section and field; fields win over the whole.  A field that is a list is given in JSON too.  All
of this is a matter of spelling, and the settings themselves can ask for another one.
-/

namespace Rechristen

/-- Variables and their texts, in order. -/
abbrev Environment := List (String × String)

namespace Environment

/-- How the variables that give settings are found. -/
structure Spelling where
  /-- How their names begin. -/
  start : String := "CODEGRAPH_NAMING_"
  /-- What stands between the names of section and field. -/
  separator : String := "__"
  /-- Names count as they are written. -/
  exactCase : Bool := false
  /-- A variable with an empty text counts as none. -/
  skipsEmpty : Bool := false
  /-- The text that stands for nothing. -/
  nothing : Option String := none
  /-- The name behind a section is cut at most so often. -/
  cuts : Option Nat := none
  /-- What is wrong with names that have to be cut. -/
  uncuttable : Option Fault := none
  /-- A choice may be given by the name of its case. -/
  byCase : Bool := false

/-- A name as it counts. -/
def Spelling.fold (sp : Spelling) (name : String) : String :=
  if sp.exactCase then name else Text.lowercase name

/-- The variable of a setting. -/
def Spelling.nameOf (sp : Spelling) (name : String) : String :=
  sp.fold (sp.start ++ name)

/-- The variables by their names as they count; of two with the same the last one counts. -/
def named (sp : Spelling) (env : Environment) : Environment :=
  (env.filter fun v => !(sp.skipsEmpty && v.2.isEmpty)).foldl (fun all v =>
    let name := sp.fold v.1
    if all.any fun w => w.1 == name then all.map fun w => if w.1 == name then (name, v.2) else w
    else all ++ [(name, v.2)]) []

/-- The sections with their fields. -/
def sections : List (String × List String) :=
  [("discovery", ["extensions", "exclude_dirs", "max_file_size_bytes"]),
    ("policies", ["enabled", "disabled", "repository_prefix", "advisories"]),
    ("arguments", ["enforce_named", "min_named_arguments", "format_multiline",
      "min_multiline_arguments", "indent"]),
    ("logging", ["level", "format"])]

/-- The fields that are lists. -/
def listFields : List (String × String) :=
  [("discovery", "extensions"), ("discovery", "exclude_dirs"), ("policies", "enabled"),
    ("policies", "disabled")]

/-- The list fields whose text may be something else than JSON: they need not be lists. -/
def looseFields : List (String × String) :=
  [("policies", "enabled")]

/-- The cases of the choices, with their words. -/
def cases : List (String × String × String) :=
  [("mode", "APPLY", "apply"), ("mode", "DRY_RUN", "dry-run"),
    ("collision_policy", "FIRST_WINS", "first-wins"),
    ("collision_policy", "LAST_WINS", "last-wins"), ("collision_policy", "ERROR", "error")]

/-- The names of all variables that give settings. -/
def names : List String :=
  let inner := sections.flatMap fun (name, fields) => name :: fields.map (name ++ "__" ++ ·)
  (["mode", "collision_policy", "skip_files_with_errors"] ++ inner).map fun name =>
    String.ofList ((({} : Spelling).start ++ name).toList.map Char.toUpper)

/-- The parts of a name between separators, which is cut at most `cuts` times; `part` is what was
read of the current part, from right to left, and `skip` characters of a separator are left. -/
def partsOf (separator : List Char) : Nat → Option Nat → List Char → List Char → List (List Char)
  | _, _, part, [] => [part.reverse]
  | skip + 1, cuts, part, _ :: rest => partsOf separator skip cuts part rest
  | 0, cuts, part, c :: rest =>
    if cuts ≠ some 0 && separator.isPrefixOf (c :: rest) then
      part.reverse :: partsOf separator (separator.length - 1) (cuts.map (· - 1)) [] rest
    else partsOf separator 0 cuts (c :: part) rest

/-- What is wrong with the environment if a text is not what it has to be. -/
def unreadable : Fault :=
  .plain "SettingsError" "invalid environment"

/-- The datum of a text in JSON; `otherwise` if it is none. -/
def json (text : String) (otherwise : Except Fault Datum) : Except Fault Datum :=
  match Json.read text with
  | .ok d => .ok d
  | .error .malformed => otherwise
  | .error .tooDeep => .error (.plain "RecursionError" "maximum recursion depth exceeded")

/-- The datum of a text that need not be anything. -/
def Spelling.plain (sp : Spelling) (text : String) : Datum :=
  if sp.nothing = some text then .null else .text text

/-- The datum of a variable for a field of a section. -/
def fieldDatum (sp : Spelling) (name : String) (keys : List String) (text : String) :
    Except Fault Datum :=
  match keys with
  | [field] =>
    if listFields.contains (name, field) && !text.isEmpty then
      json text
        (if looseFields.contains (name, field) then .ok (sp.plain text) else .error unreadable)
    else .ok (sp.plain text)
  | _ => .ok (sp.plain text)

/-- A datum put into nested mappings, along keys.  What is no mapping stays, and nothing takes the
place of what is there only if that is empty. -/
def put : List String → Datum → Datum → Datum
  | [], d, _ => d
  | key :: keys, d, .mapping entries =>
    let old := Datum.entry? entries (.text key)
    let new :=
      if keys.isEmpty then
        match d, old with
        | .null, some (.mapping []) => d
        | .null, some value => value
        | _, _ => d
      else put keys d (old.getD (.mapping []))
    .mapping (Datum.putEntry entries (.text key) new)
  | _ :: _, _, other => other

/-- The fields of a section that are given one by one. -/
def fieldByField (sp : Spelling) (env : Environment) (name : String) : Except Fault Datum :=
  if sp.separator.isEmpty then .ok (.mapping [])
  else
    env.foldlM (fun given v =>
      let opening := sp.nameOf name ++ sp.separator
      if Text.begins v.1 opening then
        match sp.uncuttable with
        | some fault => .error fault
        | none =>
          let rest := v.1.toList.drop opening.length
          let keys := (partsOf sp.separator.toList 0 sp.cuts [] rest).map String.ofList
          (fieldDatum sp name keys v.2).map fun d => put keys d given
      else .ok given) (.mapping [])

/-- The fields of a section under their own names, whatever the case in which they were given. -/
def spelled (fields : List String) (entries : List (Datum × Datum)) : List (Datum × Datum) :=
  entries.foldl (fun all e =>
    let key :=
      match e.1 with
      | .text name => (fields.find? (· == Text.lowercase name)).getD name
      | other => other.render
    Datum.putEntry all (.text key) e.2) []

/-- What the environment gives for a section.  It is given whole or field by field. -/
def section_ (sp : Spelling) (env : Environment) (name : String) (fields : List String) :
    Except Fault (Option Datum) :=
  match env.lookup (sp.nameOf name) with
  | none => do
    let d ← fieldByField sp env name
    return if d.isNothing then none else some (respell d)
  | some text =>
    if sp.nothing = some text then .ok (some .null)
    else do
      match ← json text (.error unreadable) with
      | .null => return none
      | .mapping entries =>
        let d ← fieldByField sp env name
        return some (respell ((Datum.mapping entries).merge d))
      | d => return some d
where
  /-- A section with its fields spelled out. -/
  respell : Datum → Datum
    | .mapping entries => .mapping (if sp.exactCase then entries else spelled fields entries)
    | d => d

/-- What the environment gives for a setting that is no section. -/
def simple? (sp : Spelling) (env : Environment) (name : String) : Option Datum :=
  (env.lookup (sp.nameOf name)).map fun text =>
    match if sp.byCase then cases.find? fun c => c.1 == name && c.2.1 == text else none with
    | some (_, _, word) => .text word
    | none => sp.plain text

/-- The settings given by the environment. -/
def fields (sp : Spelling) (env : Environment) : Except Fault Fields :=
  let env := named sp env
  let simple := ["mode", "collision_policy", "skip_files_with_errors"].filterMap fun name =>
    (simple? sp env name).map (name, ·)
  sections.foldlM (fun given (name, fields) =>
    (section_ sp env name fields).map fun d => given ++ (d.map (name, ·)).toList) simple

end Environment

end Rechristen
