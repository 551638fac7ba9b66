import Rechristen.Settings.Environment

/-!
# Options

Besides settings, something can be said on how they are looked for: how the variables that give them
are spelled, and which files and directories are searched.  Most options are taken as they come, and
what does not fit is noticed only where it is used.
-/

namespace Rechristen.Settings

/-- The names of the options.  Those that say nothing about variables or places have no meaning
here. -/
def optionNames : List String :=
  ["_case_sensitive", "_nested_model_default_partial_update", "_env_prefix", "_env_prefix_target",
    "_env_file", "_env_file_encoding", "_env_file_depth", "_env_ignore_empty",
    "_env_nested_delimiter", "_env_nested_max_split", "_env_parse_none_str", "_env_parse_enums",
    "_cli_prog_name", "_cli_parse_args", "_cli_settings_source", "_cli_parse_none_str",
    "_cli_hide_none_type", "_cli_avoid_json", "_cli_enforce_required",
    "_cli_use_class_docs_for_groups", "_cli_show_env_vars", "_cli_exit_on_error", "_cli_prefix",
    "_cli_flag_prefix_char", "_cli_implicit_flags", "_cli_ignore_unknown_args", "_cli_kebab_case",
    "_cli_shortcuts", "_secrets_dir", "_build_sources"]

/-- The name that is taken already. -/
def takenName : String :=
  "__pydantic_self__"

/-- The fault of a setting under the name that is taken. -/
def takenFault : Fault :=
  .plain "TypeError"
    ("BaseSettings.__init__() got multiple values for argument '" ++ takenName ++ "'")

/-- The fault of a value of the wrong kind. -/
def kindFault (message : String) : Fault :=
  .plain "TypeError" message

/-- What is given for an option. -/
def option? (given : Fields) (name : String) : Option Datum :=
  (given.lookup name).filter fun d => !(d matches .null)

/-- An option is switched on. -/
def isOn (given : Fields) (name : String) : Bool :=
  (option? given name).any fun d => !d.isNothing

/-- How often a name is cut at most, or what is wrong with the number: either at once, or when a
name has to be cut. -/
def cutsOf (d : Datum) : Except Fault (Option Nat × Option Fault) :=
  if d.isNothing then .ok (none, none)
  else
    match d with
    | .bool _ => .ok (some 0, none)
    | .int n => .ok (if n < 1 then none else some (n - 1).toNat, none)
    | .float _ =>
      .ok (none, some (kindFault "'float' object cannot be interpreted as an integer"))
    | _ =>
      .error (kindFault
        ("unsupported operand type(s) for -: '" ++ d.kindWord ++ "' and 'int'"))

/-- How the names of variables begin, if it can be put in front of a name. -/
def startOf (d : Datum) : Except Fault (Option String) :=
  match d with
  | .text s => .ok (some s)
  | .unpaired codes => .ok (some codes.text)
  | .octets _ | .list _ | .mapping _ | .group _ | .pair _ _ => .ok none
  | _ => .error (kindFault ("object of type '" ++ d.kindWord ++ "' has no len()"))

/-- What stands between the names of section and field, and what is wrong with it when a name has to
be cut. -/
def separatorOf (d : Datum) : String × Option Fault :=
  match d with
  | .text s => (s, none)
  | .unpaired codes => (codes.text, none)
  | d =>
    if d.isNothing then ("", none)
    else (d.spoken, some (kindFault ("must be str or None, not " ++ d.kindWord)))

/-- Variables begin with the common start, unless that is said to be for other names only. -/
def startApplies (given : Fields) : Bool :=
  match option? given "_env_prefix_target" with
  | none => true
  | some (.text s) => s == "variable" || s == "all"
  | some _ => false

/-- What is wrong with one of several paths. -/
def pathFault? : Datum → Option Fault
  | .text _ => none
  | .unpaired _ => none
  | .octets _ =>
    some (kindFault ("argument should be a str object or an os.PathLike object returning str, " ++
      "not <class 'bytes'>"))
  | d => some (kindFault ("expected str, bytes or os.PathLike object, not " ++ d.kindWord))

/-- What is wrong with paths: one text, or several. -/
def pathsFault? : Datum → Option Fault
  | .null => none
  | .text _ => none
  | .unpaired _ => none
  | .list items => items.findSome? pathFault?
  | .group members => members.findSome? pathFault?
  | .mapping entries => entries.findSome? fun e => pathFault? e.1
  | .octets bytes => bytes.head?.bind fun b => pathFault? (.int b.toNat)
  | .pair first second => (pathFault? first).orElse fun _ => pathFault? second
  | d => some (kindFault ("'" ++ d.kindWord ++ "' object is not iterable"))

/-- What is wrong with arguments that are to be read for settings: they are a list. -/
def argumentsFault? : Datum → Option Fault
  | .null => none
  | .bool _ => none
  | .list _ => none
  | d => if d.sameKey (.bool false) then none else some Environment.unreadable

/-- How variables are spelled, if something is said about it. -/
def spelling (given : Fields) : Except Fault Environment.Spelling := do
  let base : Environment.Spelling := {}
  let (cuts, uncountable) ← cutsOf ((option? given "_env_nested_max_split").getD .null)
  let start ← startOf ((option? given "_env_prefix").getD (.text base.start))
  for fault in pathsFault? ((option? given "_env_file").getD .null) do throw fault
  for fault in argumentsFault? ((option? given "_cli_parse_args").getD .null) do throw fault
  let (separator, unfit) :=
    separatorOf ((option? given "_env_nested_delimiter").getD (.text base.separator))
  let applied ←
    if !startApplies given then pure ""
    else
      match start with
      | some s => pure s
      | none => throw Environment.unreadable
  return {
    start := applied
    separator := separator
    exactCase := isOn given "_case_sensitive"
    skipsEmpty := isOn given "_env_ignore_empty"
    nothing := (option? given "_env_parse_none_str").bind Datum.text?
    cuts := cuts
    uncuttable := uncountable.orElse fun _ => unfit
    byCase := isOn given "_env_parse_enums" }

/-- What is wrong with the directories that are searched for settings. -/
def directoriesFault? (given : Fields) : Option Fault :=
  pathsFault? ((option? given "_secrets_dir").getD .null)

end Rechristen.Settings
