import Rechristen.Settings.Options
import Rechristen.Text.Encoding
import Rechristen.Yaml

/-!
# Where settings come from

Settings are given directly or in a configuration file, and the environment fills in what they leave
open.  A configuration file holds one mapping; an empty one gives no settings.
-/

namespace Rechristen

/-- Why there are no settings. -/
inductive SettingsFailure where
  /-- What is given does not fit; the path is that of the configuration file, if there is one. -/
  | invalid (file : Option Path) (complaints : List Complaint)
  /-- An option or a variable of the environment cannot be read. -/
  | unusable (fault : Fault)
  /-- A name at the top of a configuration file is not a text. -/
  | keyNotText
  /-- The configuration file is not UTF-8. -/
  | undecodable
  /-- The configuration file is not there. -/
  | noFile (file : Path)
  /-- The configuration file gives no data. -/
  | unreadable (file : Path) (failure : Yaml.Failure)
  /-- The configuration file holds something else than a mapping. -/
  | notMapping (file : Path)

namespace SettingsFailure

/-- A fault of a configuration file. -/
def ofFile (file : Path) (message : String) : Fault :=
  .ofKind .configuration message [("path", .text file.toString)]

/-- The fault a failure is reported as. -/
def fault : SettingsFailure → Fault
  | invalid none _ => .plain "ValidationError" "invalid settings"
  | invalid (some file) _ => ofFile file "invalid settings"
  | unusable fault => fault
  | keyNotText => .plain "TypeError" "keywords must be strings"
  | undecodable => .plain "UnicodeDecodeError" "invalid text"
  | noFile file => ofFile file "Cannot read configuration file"
  | unreadable file .malformed => ofFile file "Invalid YAML in configuration file"
  | unreadable _ failure => failure.fault
  | notMapping file => ofFile file "Configuration root must be a mapping"

/-- The complaints behind a failure. -/
def complaints? : SettingsFailure → Option (List Complaint)
  | invalid _ complaints => some complaints
  | _ => none

end SettingsFailure

namespace Settings

/-- The fields of a mapping whose keys are texts. -/
def fieldsOf? (entries : List (Datum × Datum)) : Option Fields :=
  entries.mapM fun e => e.1.text?.map (·, e.2)

/-- A key of a mapping has halves of pairs of codes in it. -/
def isUnpaired (e : Datum × Datum) : Bool :=
  e.1 matches .unpaired _

/-- The given fields over those of the environment. -/
def layered (environment given : Fields) : Fields :=
  let entries := fun (fs : Fields) => fs.map fun f => (Datum.text f.1, f.2)
  (fieldsOf? (Datum.mergeEntries (entries environment) (entries given))).getD given

/-- The given settings by the names they count under.  The name of a setting may be written in any
case, and of two such names the first one counts. -/
def spelled (given : Fields) : Fields :=
  let given := given.filter fun f => !optionNames.contains f.1
  let known := topNames.filterMap fun name =>
    (given.find? fun f => Text.lowercase f.1 == name).map fun f => (name, f.2)
  known ++ given.filter fun f => !topNames.contains (Text.lowercase f.1)

/-- What the environment gives, spelled as the given options say. -/
def fromEnvironment (env : Environment) (given : Fields) : Except Fault Fields := do
  if (given.lookup takenName).isSome then throw takenFault
  let found ← env.fields (← spelling given)
  for fault in directoriesFault? given do throw fault
  return found

/-- The settings that are given, with what the environment adds.  A name that is not made of
characters is the only complaint. -/
def ofGiven (env : Environment) (entries : List (Datum × Datum)) (file : Option Path) :
    Except SettingsFailure Settings :=
  match fieldsOf? (entries.filter (!isUnpaired ·)) with
  | none => .error .keyNotText
  | some given =>
    match fromEnvironment env given with
    | .error fault => .error (.unusable fault)
    | .ok environment =>
      if entries.any isUnpaired then .error (.invalid file [⟨[], .brokenText⟩])
      else
        match ofFields (layered environment (spelled given)) with
        | .error complaints => .error (.invalid file complaints)
        | .ok settings => .ok settings

/-- The settings of a configuration file, given its content if it is there, with what the
environment adds. -/
def ofFile (env : Environment) (file : Path) (content? : Option Bytes) :
    Except SettingsFailure Settings :=
  match content? with
  | none => .error (.noFile file)
  | some content =>
    if !Text.isUtf8 content then .error .undecodable
    else
      match Yaml.read (Text.decodeUtf8 content) with
      | .error failure => .error (.unreadable file failure)
      | .ok (.mapping entries) => ofGiven env entries (some file)
      | .ok d => if d.isNothing then ofGiven env [] (some file) else .error (.notMapping file)

/-! ## Overrides -/

/-- What the command line says about settings. -/
structure Overrides where
  dryRun : Bool := false
  /-- The policies to follow, if any are named. -/
  policies : List String := []
  enforceNamed : Option Bool := none
  formatMultiline : Option Bool := none

/-- The settings with what the command line says. -/
def override (s : Settings) (o : Overrides) : Settings :=
  { s with
    dryRun := o.dryRun || s.dryRun
    policies := if o.policies.isEmpty then s.policies else { s.policies with enabled := o.policies }
    arguments := { s.arguments with
      enforceNamed := o.enforceNamed.getD s.arguments.enforceNamed
      formatMultiline := o.formatMultiline.getD s.arguments.formatMultiline } }

end Settings

end Rechristen
