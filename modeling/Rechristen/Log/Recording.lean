import Rechristen.Log.Line

/-!
# Recording a log

What a program reports depends on where it is: inside a run every event carries the root and the
mode of the run, and a stage is timed and reported when it ends.  A fault ends what is going on up
to the stage around it, which reports the fault and keeps it.  An event that cannot be reported is a
fault too.
-/

namespace Rechristen

/-- What a program does as far as its log goes. -/
inductive Deed where
  /-- An event is reported. -/
  | report (line : LogLine)
  /-- A fault is reported. -/
  | reportFault (logger event : String) (fault : Fault) (fields : Fields)
  /-- Something is done inside a run. -/
  | within (root dryRun : Datum) (deeds : List Deed)
  /-- Something is done in a stage. -/
  | stage (logger name : String) (fields : Fields) (deeds : List Deed)
  /-- A fault occurs. -/
  | fail (fault : Fault)

/-- A log being recorded. -/
structure Recording where
  /-- The readings of the clock to come, in seconds. -/
  clock : List Float
  /-- The log is for programs. -/
  forPrograms : Bool := false
  lines : List LogLine := []
  /-- The faults that ended a stage. -/
  faults : List Fault := []

namespace Recording

/-- The time now. -/
def now (r : Recording) : Float :=
  r.clock.headD 0

/-- The recording after the clock has been read. -/
def tick (r : Recording) : Recording :=
  { r with clock := r.clock.tail }

/-- The recording with the lines since some others changed. -/
def relabel (r : Recording) (from_ : Nat) (f : Event → Event) : Recording :=
  { r with
    lines := r.lines.take from_ ++ (r.lines.drop from_).map fun l => { l with event := f l.event } }

/-- The recording with a line, and the fault if it cannot be reported. -/
def add (r : Recording) (l : LogLine) : Recording × Option Fault :=
  match l.fault? r.forPrograms with
  | some fault => (r, some fault)
  | none => ({ r with lines := r.lines ++ [l] }, none)

/-- The recording with a fault reported. -/
def addFault (r : Recording) (logger event : String) (fault : Fault) (fields : Fields) :
    Recording × Option Fault :=
  match Fault.clash? ["logger", "event", "error"] fields with
  | some name => (r, some (Fault.twice "log_failure" name))
  | none => r.add ⟨logger, .failure event fault fields⟩

/-- The recording with the end of a stage reported, and the fault that the stage ends with. -/
def reportStage (r : Recording) (logger name : String) (fields : Fields) (seconds : Float)
    (fault? : Option Fault) : Recording × Option Fault :=
  match Fault.clash? ["duration_ms"] fields, fault? with
  | some field, _ =>
    (r, some (Fault.misfit ("got multiple values for keyword argument '" ++ field ++ "'")))
  | none, none => r.add ⟨logger, .stageTimed name fields seconds none⟩
  | none, some fault =>
    match Fault.clash? ["event", "error"] fields with
    | some field => (r, some (Fault.twice "log_failure" field))
    | none =>
      let (r, worse?) := r.add ⟨logger, .stageTimed name fields seconds (some fault)⟩
      (r, worse?.or (some fault))

/-- The recording at the end of a stage, which began at a time. -/
def endStage (r : Recording) (logger name : String) (fields : Fields) (began : Float)
    (fault? : Option Fault) : Recording :=
  let (after, fault?) := r.tick.reportStage logger name fields (r.now - began) fault?
  { after with faults := after.faults ++ fault?.toList }

mutual

/-- Do one thing: what is recorded, and the fault that goes on. -/
def perform (r : Recording) : Deed → Recording × Option Fault
  | .report line => r.add line
  | .reportFault logger event fault fields => r.addFault logger event fault fields
  | .fail fault => (r, some fault)
  | .within root dryRun deeds =>
    let (after, fault?) := r.performAll deeds
    (after.relabel r.lines.length (Event.amid (Event.runContext root dryRun)), fault?)
  | .stage logger name fields deeds =>
    match Fault.clash? ["logger", "stage"] fields with
    | some field => ({ r with faults := r.faults ++ [Fault.twice "timed_stage" field] }, none)
    | none =>
      let (after, fault?) := r.tick.performAll deeds
      (after.endStage logger name fields r.now fault?, none)

/-- Do one thing after another, up to the first fault. -/
def performAll (r : Recording) : List Deed → Recording × Option Fault
  | [] => (r, none)
  | deed :: rest =>
    match r.perform deed with
    | (r, some fault) => (r, some fault)
    | (r, none) => r.performAll rest

end

/-- The lines from a threshold on. -/
def shown (threshold : Nat) (r : Recording) : List LogLine :=
  r.lines.filter (·.passes threshold)

/-- Record all that a program does.  A fault outside every stage ends the program. -/
def ofDeeds (clock : List Float) (forPrograms : Bool) (deeds : List Deed) :
    Except Fault Recording :=
  match ({ clock, forPrograms } : Recording).performAll deeds with
  | (_, some fault) => .error fault
  | (r, none) => .ok r

end Recording

end Rechristen
