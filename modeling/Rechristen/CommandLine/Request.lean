import Rechristen.Settings.Sources

/-!
# Requests on the command line

The program knows two commands: `run`, which takes a path and options, and `policies`.  Options may
stand before or after the path; what follows two dashes is no option.  Options of one letter may
stand together behind one dash, and the value of an option follows it directly or as the next
argument.  A long option may have its value behind an equals sign.
-/

namespace Rechristen

/-- What the command `run` is asked for. -/
structure RunRequest where
  /-- The arguments that are no options. -/
  arguments : List String := []
  config : Option String := none
  overrides : Settings.Overrides := {}
  showDiff : Bool := false
  logLevel : Option String := none

/-- What the program is asked for. -/
inductive Request where
  | run (request : RunRequest)
  | policies

namespace Request

/-- What an option does: by itself, or with a value. -/
inductive Switch where
  | flag (set : RunRequest → RunRequest)
  | valued (set : String → RunRequest → RunRequest)

/-- An option that overrides settings. -/
def overriding (change : Settings.Overrides → Settings.Overrides) : Switch :=
  .flag fun r => { r with overrides := change r.overrides }

/-- Nothing is written. -/
def dryRun : Switch :=
  overriding ({ · with dryRun := true })

/-- The configuration file. -/
def config : Switch :=
  .valued fun v r => { r with config := some v }

/-- One more policy to follow. -/
def policy : Switch :=
  .valued fun v r =>
    { r with overrides := { r.overrides with policies := r.overrides.policies ++ [v] } }

/-- The long options. -/
def long? (name : String) : Option Switch :=
  match name with
  | "--dry-run" => some dryRun
  | "--config" => some config
  | "--policy" => some policy
  | "--named-args" => some (overriding ({ · with enforceNamed := some true }))
  | "--no-named-args" => some (overriding ({ · with enforceNamed := some false }))
  | "--multiline" => some (overriding ({ · with formatMultiline := some true }))
  | "--no-multiline" => some (overriding ({ · with formatMultiline := some false }))
  | "--diff" => some (.flag ({ · with showDiff := true }))
  | "--log-level" => some (.valued fun v r => { r with logLevel := some v })
  | _ => none

/-- The options of one letter. -/
def short? (letter : Char) : Option Switch :=
  match letter with
  | 'n' => some dryRun
  | 'c' => some config
  | 'p' => some policy
  | _ => none

/-- What an argument leaves open. -/
inductive Step where
  /-- The argument is dealt with. -/
  | done (r : RunRequest)
  /-- The next argument is the value of an option. -/
  | awaiting (set : String → RunRequest → RunRequest) (r : RunRequest)

/-- A long option. -/
def long (arg : String) (r : RunRequest) : Option Step :=
  let (name, value?) := Text.cut '=' arg
  match long? name, value? with
  | some (.flag set), none => some (.done (set r))
  | some (.valued set), some v => some (.done (set v r))
  | some (.valued set), none => some (.awaiting set r)
  | _, _ => none

/-- Options of one letter. -/
def shorts (r : RunRequest) : List Char → Option Step
  | [] => some (.done r)
  | c :: rest =>
    match short? c with
    | none => none
    | some (.flag set) => shorts (set r) rest
    | some (.valued set) =>
      if rest.isEmpty then some (.awaiting set r) else some (.done (set (String.ofList rest) r))

/-- One argument. -/
def argument (arg : String) (r : RunRequest) : Option Step :=
  match arg.toList with
  | '-' :: '-' :: _ => long arg r
  | '-' :: c :: cs => shorts r (c :: cs)
  | _ => some (.done { r with arguments := r.arguments ++ [arg] })

/-- The arguments of the command `run`. -/
def runRequest? : Step → List String → Option RunRequest
  | .done r, [] => some r
  | .awaiting _ _, [] => none
  | .awaiting set r, arg :: rest => runRequest? (.done (set arg r)) rest
  | .done r, arg :: rest =>
    if arg = "--" then some { r with arguments := r.arguments ++ rest }
    else
      match argument arg r with
      | none => none
      | some step => runRequest? step rest

/-- What the arguments of the program ask for, if they are in order. -/
def ofArguments? (args : List String) : Option Request :=
  match if args.head? = some "--" then args.tail else args with
  | "run" :: rest => (runRequest? (.done {}) rest).map .run
  | ["policies"] => some .policies
  | ["policies", "--"] => some .policies
  | _ => none

end Request

end Rechristen
