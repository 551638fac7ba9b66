import Rechristen.CommandLine.Request
import Rechristen.Console.Report
import Rechristen.Log.Line

/-!
# The command line

What the program does when it is called: with the arguments, the environment, the files and a
parser, what it prints, the files afterwards and the exit status.  A fault of naming ends the
program with a message; any other failure goes on to the caller.
-/

namespace Rechristen

namespace CommandLine

/-- What ended the program other than by a message. -/
inductive Escape where
  | settings (failure : SettingsFailure)
  | fault (fault : Fault)

/-- What became of a call. -/
structure Outcome where
  exitCode : Nat := 0
  /-- The lines printed. -/
  lines : List String := []
  tree : FileTree
  /-- The lines of the log. -/
  log : List String := []
  escape : Option Escape := none

/-- The status of a call that is not understood. -/
def usageCode : Nat := 2

namespace Outcome

/-- The call ended by something that is not a message. -/
def escaped (o : Outcome) (escape : Escape) : Outcome :=
  { o with exitCode := 1, escape := some escape }

/-- The call after some blocks are printed. -/
def print (o : Outcome) (blocks : List Block) : Outcome :=
  let (lines, fault?) := Block.print blocks
  let printed := { o with lines := o.lines ++ lines }
  match fault? with
  | none => printed
  | some fault => printed.escaped (.fault fault)

/-- The call after a fault: a message for a fault of naming, anything else escapes. -/
def failed (o : Outcome) (fault : Fault) (escape : Escape) : Outcome :=
  match fault with
  | .coded .. =>
    { o with exitCode := 1 }.print [.text ("\n[bold red]Run failed:[/bold red] " ++ fault.text)]
  | .plain .. => o.escaped escape

end Outcome

/-- The settings of a run. -/
def settingsOf (env : Environment) (tree : FileTree) (config : Option String) :
    Except SettingsFailure Settings :=
  match config with
  | none => Settings.ofGiven env [] none
  | some file => Settings.ofFile env (.ofString file) (tree.contentOf? (.ofString file))

/-- What is printed above a report. -/
def heading (path : Path) (dryRun : Bool) : List Block :=
  [.text ("\n[bold cyan]codegraph-naming[/bold cyan] " ++ path.toString),
    .text ("[bold]Mode:[/bold] " ++ Settings.modeWord dryRun ++ "\n")]

/-- The lines that show events from a threshold on. -/
def logLines (threshold : Nat) (format : String) (events : List Event) : List String :=
  ((events.map fun e => (⟨"run", e⟩ : LogLine)).filter (·.passes threshold)).flatMap fun l =>
    if format = "json" then [l.json] else (l.console.toOption).getD []

/-- Carry out a run whose policies are known. -/
def carryOut (started : Outcome) (parser : Parser) (settings : Settings) (threshold : Nat)
    (path : Path) (showDiff : Bool) : Outcome :=
  match settings.followedPolicies with
  | .error failure => started.failed failure.fault (.fault failure.fault)
  | .ok policies =>
    let ending := Run.perform started.tree parser settings policies path
    let ended :=
      { started with
        tree := ending.tree
        log := logLines threshold settings.logging.format ending.log }
    match ending.result with
    | .error failure => ended.failed failure.fault (.fault failure.fault)
    | .ok report => ended.print (report.blocks showDiff)

/-- Carry out a run.  The level of the log on the command line wins over the settings. -/
def run (env : Environment) (tree : FileTree) (parser : Parser) (path : Path)
    (request : RunRequest) : Outcome :=
  let called : Outcome := { tree }
  match settingsOf env tree request.config with
  | .error failure => called.failed failure.fault (.settings failure)
  | .ok settings =>
    let settings := settings.override request.overrides
    let level? := request.logLevel.filter (!·.isEmpty)
    match Level.threshold (level?.getD settings.logging.level) with
    | .error fault => called.escaped (.fault fault)
    | .ok threshold =>
      let started := called.print (heading path settings.dryRun)
      if started.escape.isSome then started
      else carryOut started parser settings threshold path request.showDiff

/-- What stands at a path on the command line, if anything.  No path holds a null character. -/
def found? (tree : FileTree) (path : String) : Except Fault (Option Entry) :=
  let path := Path.ofString path
  if path.hasNull then .error Failure.nullCharacter else .ok (tree.get? path)

/-- Whether the paths of a request are there: first the configuration, which has to be a file, and
then the path to work on. -/
def areThere (tree : FileTree) (config path : Option String) : Except Fault Bool := do
  let configuration ← config.mapM (found? tree)
  if configuration.any (·.all Entry.isDirectory) then return false
  return (← path.mapM (found? tree)).any Option.isSome

/-- Carry out a call. -/
def call (env : Environment) (tree : FileTree) (parser : Parser) (args : List String) : Outcome :=
  let misused : Outcome := { tree, exitCode := usageCode }
  match Request.ofArguments? args with
  | none => misused
  | some .policies => ({ tree } : Outcome).print [.table policyTable]
  | some (.run request) =>
    match areThere tree request.config request.arguments.head?, request.arguments with
    | .error fault, _ => ({ tree } : Outcome).escaped (.fault fault)
    | .ok true, [path] => run env tree parser (.ofString path) request
    | .ok _, _ => misused

end CommandLine

end Rechristen
