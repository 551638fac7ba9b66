import Rechristen.Datum

/-!
# Faults

What goes wrong is reported with a kind, a code that programs can test, a message and the data that
belong to it.  Faults that do not come from naming itself have a message only.
-/

namespace Rechristen

/-- The kinds of coded faults. -/
inductive FaultKind where
  | naming
  | configuration
  | unknownPolicy
  | parse
  | editConflict
  | planConflict
  | fileRename
  | sessionState
  deriving DecidableEq, Repr

namespace FaultKind

/-- The name under which a kind is reported. -/
def name : FaultKind → String
  | naming => "NamingError"
  | configuration => "ConfigurationError"
  | unknownPolicy => "UnknownPolicyError"
  | parse => "ParseError"
  | editConflict => "EditConflictError"
  | planConflict => "PlanConflictError"
  | fileRename => "FileRenameError"
  | sessionState => "SessionStateError"

/-- The code of a kind.  A general fault brings its own. -/
def code : FaultKind → String
  | naming => ""
  | configuration => "CONFIGURATION_ERROR"
  | unknownPolicy => "UNKNOWN_POLICY"
  | parse => "PARSE_ERROR"
  | editConflict => "EDIT_CONFLICT"
  | planConflict => "PLAN_CONFLICT"
  | fileRename => "FILE_RENAME_FAILED"
  | sessionState => "SESSION_STATE"

/-- Whether faults of a kind are faults of the configuration. -/
def isConfiguration : FaultKind → Bool
  | configuration => true
  | unknownPolicy => true
  | _ => false

/-- All kinds. -/
def all : List FaultKind :=
  [naming, configuration, unknownPolicy, parse, editConflict, planConflict, fileRename,
    sessionState]

end FaultKind

/-- Something that went wrong. -/
inductive Fault where
  | coded (kind : FaultKind) (code message : Datum) (context : Fields)
  | plain (kind message : String)

namespace Fault

/-- A fault of a kind with that kind's code. -/
def ofKind (kind : FaultKind) (message : String) (context : Fields) : Fault :=
  .coded kind (.text kind.code) (.text message) context

/-- The name of a fault's kind. -/
def kindName : Fault → String
  | coded kind _ _ _ => kind.name
  | plain kind _ => kind

/-- The code of a fault, if it has one. -/
def code : Fault → Datum
  | coded _ code _ _ => code
  | plain _ _ => .null

/-- The bare message. -/
def message : Fault → Datum
  | coded _ _ message _ => message
  | plain _ message => .text message

/-- The data that belong to a fault. -/
def context : Fault → Fields
  | coded _ _ _ context => context
  | plain _ _ => []

/-- The code shown in front of the message.  A policy that is not known is shown as a fault of the
configuration. -/
def heading (kind : FaultKind) (code : Datum) : String :=
  if kind = .unknownPolicy then FaultKind.configuration.code else code.spoken

/-- The message as it is shown: with the code in front. -/
def text : Fault → String
  | coded kind code message _ => "[" ++ heading kind code ++ "] " ++ message.spoken
  | plain _ message => message

/-- Everything known about a fault, on one line. -/
def render : Fault → String
  | coded kind code message context =>
    kind.name ++ "(code=" ++ code.render ++ ", message=" ++ message.render ++ ", " ++
      ", ".intercalate (context.map fun f => f.1 ++ "=" ++ f.2.render) ++ ")"
  | plain kind message => kind ++ "(" ++ Text.quoted message ++ ")"

/-- Whether the configuration is at fault. -/
def isConfiguration : Fault → Bool
  | coded kind _ _ _ => kind.isConfiguration
  | plain _ _ => false

end Fault

end Rechristen
