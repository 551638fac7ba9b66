import Rechristen.Fault

/-!
# Events

A run reports what it does as events: a level, a name and named data.  This module holds the events
that do not belong to one part of the program; each part describes its own next to what it does.
-/

namespace Rechristen

/-- How much an event matters. -/
inductive Level where
  | debug
  | info
  | warning
  | error
  | critical
  deriving DecidableEq, Repr

namespace Level

/-- The name of a level. -/
def name : Level → String
  | debug => "debug"
  | info => "info"
  | warning => "warning"
  | error => "error"
  | critical => "critical"

/-- Levels by rising weight. -/
def weight : Level → Nat
  | debug => 10
  | info => 20
  | warning => 30
  | error => 40
  | critical => 50

/-- The level with a name.  Two levels have another name besides their own. -/
def ofName? (name : String) : Option Level :=
  if name = "warn" then some warning
  else if name = "fatal" then some critical
  else [debug, info, warning, error, critical].find? (·.name == name)

end Level

/-- Something a run reports. -/
structure Event where
  level : Level
  name : String
  fields : Fields

namespace Event

/-- The event with fields that hold all around it.  The event's own fields win over them. -/
def amid (context : Fields) (e : Event) : Event :=
  { e with fields := e.fields ++ context.filter fun c => !e.fields.any fun f => f.1 == c.1 }

/-- The fields that hold inside a run: its root and its mode. -/
def runContext (root dryRun : Datum) : Fields :=
  [("run_root", root), ("dry_run", dryRun)]

/-- The event as seen inside a run. -/
def within (root : String) (dryRun : Bool) (e : Event) : Event :=
  e.amid (runContext (.text root) (.bool dryRun))

/-- Something failed; the fault's kind, message and code are added to the fields. -/
def failure (name : String) (fault : Fault) (fields : Fields) : Event :=
  let fields := (fields.put "error_type" (.text fault.kindName)).put "error_message"
    (.text fault.message.spoken)
  ⟨.error, name, if fault.code.isNothing then fields else fields.put "error_code" fault.code⟩

/-- A stage of a run ended, well or with a fault. -/
def stageEnded (stage : String) (fields : Fields) : Option Fault → Event
  | none => ⟨.debug, "stage_complete", ("stage", .text stage) :: fields⟩
  | some fault => failure "stage_failed" fault (("stage", .text stage) :: fields)

/-- A stage of a run ended after a time in seconds, which is reported in milliseconds. -/
def stageTimed (stage : String) (fields : Fields) (seconds : Float) : Option Fault → Event :=
  stageEnded stage (("duration_ms", .float (Decimal.roundToCents (seconds * 1000))) :: fields)

end Event

end Rechristen
