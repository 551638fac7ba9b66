import Rechristen.Fault

/-!
# Faults made from arguments

A fault is made from the name of its kind, arguments and named data.  A coded fault takes a
message, and a general one a code before it; arguments that do not fit are a fault of their own.
Plain faults take any arguments and show them: one by itself, several in parentheses.  A fault of
the system tells its kind from a number.
-/

namespace Rechristen.Fault

/-- Arguments that do not fit. -/
def misfit (message : String) : Fault :=
  .plain "TypeError" message

/-- An argument is given twice. -/
def twice (callee name : String) : Fault :=
  misfit (callee ++ "() got multiple values for argument '" ++ name ++ "'")

/-- The first field with one of some names. -/
def clash? (names : List String) (fields : Fields) : Option String :=
  (fields.find? fun f => names.contains f.1).map Prod.fst

/-! ## Coded faults -/

/-- The names of the arguments of a coded fault. -/
def parameters : FaultKind → List String
  | .naming => ["code", "message"]
  | _ => ["message"]

/-- What is said about arguments that are left out. -/
def missing (callee : String) (names : List String) : Fault :=
  let count := if names.length = 1 then "1 required positional argument: " else
    toString names.length ++ " required positional arguments: "
  misfit (callee ++ "() missing " ++ count ++ " and ".intercalate (names.map Text.quoted))

/-- What is said about arguments that are too many. -/
def tooMany (callee : String) (most given : Nat) : Fault :=
  misfit (callee ++ "() takes " ++ toString most ++ " positional arguments but " ++
    toString given ++ " were given")

/-- Make a coded fault.  An argument may be among the named data, and the code of a kind may not. -/
def coded? (kind : FaultKind) (args : List Datum) (fields : Fields) : Except Fault Fault :=
  let callee := kind.name ++ ".__init__"
  let names := parameters kind
  let value? := fun name => ((names.zip args).lookup name).or (fields.lookup name)
  match clash? ("self" :: names.take args.length) fields with
  | some name => .error (twice callee name)
  | none =>
    if names.length < args.length then
      .error (tooMany callee (names.length + 1) (args.length + 1))
    else
      match names.filter fun name => (value? name).isNone with
      | [] =>
        let context := fields.filter fun f => !names.contains f.1
        if kind ≠ .naming && (fields.lookup "code").isSome then
          .error (misfit ("codegraph_naming.errors.NamingError.__init__() " ++
            "got multiple values for keyword argument 'code'"))
        else
          .ok (.coded kind ((value? "code").getD (.text kind.code))
            ((value? "message").getD .null) context)
      | left => .error (missing callee left)

/-! ## Plain faults -/

/-- Several arguments. -/
def several (args : List Datum) : String :=
  "(" ++ ", ".intercalate (args.map Datum.render) ++ ")"

/-- What arguments say. -/
def saying (shown : Datum → String) : List Datum → String
  | [] => ""
  | [d] => shown d
  | args => several args

/-- The kinds of faults of the system, by their numbers. -/
def systemKinds : List (Int × String) :=
  [(1, "PermissionError"), (2, "FileNotFoundError"), (3, "ProcessLookupError"),
    (4, "InterruptedError"), (10, "ChildProcessError"), (11, "BlockingIOError"),
    (13, "PermissionError"), (17, "FileExistsError"), (20, "NotADirectoryError"),
    (21, "IsADirectoryError"), (32, "BrokenPipeError"), (103, "ConnectionAbortedError"),
    (104, "ConnectionResetError"), (108, "BrokenPipeError"), (110, "TimeoutError"),
    (111, "ConnectionRefusedError"), (114, "BlockingIOError"), (115, "BlockingIOError")]

/-- The kind of a fault of the system with a number. -/
def systemKind : Datum → String
  | .int n => (systemKinds.lookup n).getD "OSError"
  | .bool b => (systemKinds.lookup (if b then 1 else 0)).getD "OSError"
  | _ => "OSError"

/-- A datum is a number. -/
def isNumber : Datum → Bool
  | .int _ => true
  | .float _ => true
  | .bool _ => true
  | _ => false

/-- A fault of the system: a number, what is wrong, and the files it is about. -/
def system (number reason : Datum) (files : List Datum) : Fault :=
  let kind := systemKind number
  let base := "[Errno " ++ number.spoken ++ "] " ++ reason.spoken
  let named := fun (d : Option Datum) => d.filter fun d => !(d matches .null)
  let counted := kind = "BlockingIOError" && files.head?.any isNumber
  match named files.head?, named files[2]? with
  | some file, second =>
    if counted then .plain kind base
    else
      .plain kind (base ++ ": " ++ file.render ++
        (second.elim "" fun second => " -> " ++ second.render))
  | none, _ => .plain kind base

/-- Make a plain fault. -/
def plainOf (kind : String) (args : List Datum) : Fault :=
  if kind = "KeyError" then .plain kind (saying Datum.render args)
  else if kind = "OSError" && args.length ≤ 5 then
    match args with
    | number :: reason :: files => system number reason files
    | _ => .plain kind (saying Datum.spoken args)
  else .plain kind (saying Datum.spoken args)

/-- Make a fault of the kind with a name.  Only coded faults take named data. -/
def ofArguments (kind : String) (args : List Datum) (fields : Fields) : Except Fault Fault :=
  match FaultKind.all.find? (·.name == kind) with
  | some kind => coded? kind args fields
  | none =>
    if fields.isEmpty then .ok (plainOf kind args)
    else .error (misfit (kind ++ "() takes no keyword arguments"))

end Rechristen.Fault
