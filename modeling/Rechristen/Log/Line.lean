import Rechristen.Fault.Arguments
import Rechristen.Json
import Rechristen.Log.Event
import Rechristen.Text.Blank
import Rechristen.Text.Lines

/-!
# Lines of the log

An event is shown on one line: for programs as a JSON object, for people as a row with the level,
the name of the event, the part of the program it comes from and the fields sorted by name.  Some
fields have a meaning of their own: a stack and the text of a fault are shown for people below the
row.
-/

namespace Rechristen

/-! ## Levels -/

/-- The upper case of a character, where it is made of plain capitals. -/
def Level.capitals (c : Char) : List Char :=
  match c with
  | 'ı' => ['I']
  | 'ſ' => ['S']
  | 'ß' => ['S', 'S']
  | 'ﬀ' => ['F', 'F']
  | 'ﬁ' => ['F', 'I']
  | 'ﬂ' => ['F', 'L']
  | 'ﬃ' => ['F', 'F', 'I']
  | 'ﬄ' => ['F', 'F', 'L']
  | 'ﬅ' => ['S', 'T']
  | 'ﬆ' => ['S', 'T']
  | c => [c.toUpper]

/-- The words that are reserved and name no level, and what is said about them. -/
def Level.reserved : List (String × Fault) :=
  [("BASIC_FORMAT",
      .plain "ValueError" "Unknown level: '%(levelname)s:%(name)s:%(message)s'"),
    ("_STYLES",
      .plain "TypeError" ("Level not an integer or a valid string: " ++
        "\x7b'%': (<class 'logging.PercentStyle'>, '%(levelname)s:%(name)s:%(message)s'), " ++
        "'\x7b': (<class 'logging.StrFormatStyle'>, " ++
        "'\x7blevelname\x7d:\x7bname\x7d:\x7bmessage\x7d'), " ++
        "'$': (<class 'logging.StringTemplateStyle'>, " ++
        "'$\x7blevelname\x7d:$\x7bname\x7d:$\x7bmessage\x7d')\x7d"))]

/-- The weight below which events are not shown, by the name of a level in any case.  A name that is
not known stands for the usual one. -/
def Level.threshold (name : String) : Except Fault Nat :=
  let known := [("DEBUG", 10), ("INFO", 20), ("WARNING", 30), ("WARN", 30), ("ERROR", 40),
    ("CRITICAL", 50), ("FATAL", 50), ("NOTSET", 0)]
  let word := String.ofList (name.toList.flatMap Level.capitals)
  match Level.reserved.lookup word with
  | some fault => .error fault
  | none => .ok ((known.lookup word).getD Level.info.weight)

/-! ## Lines -/

/-- An event and the part of the program it comes from. -/
structure LogLine where
  logger : String
  event : Event

namespace LogLine

/-- A line is shown from a threshold on. -/
def passes (threshold : Nat) (l : LogLine) : Bool :=
  threshold ≤ l.event.level.weight

/-- The name of the part of the program.  The part without a name is the root. -/
def part (l : LogLine) : String :=
  if l.logger.isEmpty then "root" else l.logger

/-- The fields that are shown.  Level and part of the program win over fields of those names. -/
def named (l : LogLine) : Fields :=
  let kept : Fields := l.event.fields.filter fun f => f.1 != "stack_info" && f.1 != "exc_info"
  (kept.put "level" (.text l.event.level.name)).put "logger" (.text l.part)

/-- The line as named data. -/
def fields (l : LogLine) : Fields :=
  l.named.put "message" (.text l.event.name)

/-- The line as a datum. -/
def datum (l : LogLine) : Datum :=
  .mapping (l.fields.map fun f => (.text f.1, f.2))

/-- The line for programs. -/
def json (l : LogLine) : String :=
  Json.write l.datum

/-- The characters that make a text stand in quotes. -/
def needsQuotes (c : Char) : Bool :=
  [' ', '\t', '=', '\r', '\n', '"', '\''].contains c

/-- A datum for people: a text stands bare if it can be told from what follows. -/
def shown : Datum → String
  | .text s => if s.toList.any needsQuotes then Text.quoted s else s
  | d => d.render

/-- The row for people: the parts with a place of their own, and then the fields by name. -/
def row (l : LogLine) : String :=
  let own := ["timestamp", "level", "logger", "logger_name", "stack", "exception"]
  let value? := fun name => (l.event.fields.lookup name).map Datum.spoken
  let time := (value? "timestamp").toList
  let other := (value? "logger_name").toList.map fun name => "[" ++ name ++ "]"
  let rest := (l.named.filter fun f => !own.contains f.1).mergeSort fun a b => decide (a.1 ≤ b.1)
  let parts := time ++
    ["[" ++ Text.padEnd 9 l.event.level.name ++ "]", Text.padEnd 30 l.event.name,
      "[" ++ l.part ++ "]"] ++ other ++ rest.map fun f => f.1 ++ "=" ++ shown f.2
  " ".intercalate (parts.filter (!·.isEmpty))

/-- What is shown below the row: a text, or nothing. -/
def below (l : LogLine) (name : String) : Except Fault (Option String) :=
  match l.event.fields.lookup name with
  | none => .ok none
  | some .null => .ok none
  | some (.text s) => .ok (some s)
  | some d =>
    .error (.plain "TypeError" ("can only concatenate str (not \"" ++ d.kindWord ++ "\") to str"))

/-- The lines for people: the row, the stack and the text of a fault, with a rule between these. -/
def console (l : LogLine) : Except Fault (List String) := do
  let stack? ← l.below "stack"
  let text? ← l.below "exception"
  let rule := "\n\n" ++ String.ofList (List.replicate 79 '=') ++ "\n"
  let stack := stack?.elim "" fun s => "\n" ++ s ++ if text?.isSome then rule else ""
  let text := text?.elim "" ("\n" ++ ·)
  return (Text.lines (l.row ++ stack ++ text)).map (Text.trimEnd Text.isBlank)

/-- Why an event cannot be reported, if it cannot: a field has the name of a part of the report, or
stands where it cannot be shown. -/
def fault? (forPrograms : Bool) (l : LogLine) : Option Fault :=
  let fields := l.event.fields
  match Fault.clash? ["event", "self"] fields, Fault.clash? ["method_name"] fields with
  | some name, _ => some (Fault.twice ("BoundLogger." ++ l.event.level.name) name)
  | none, some name => some (Fault.twice "BoundLogger._proxy_to_logger" name)
  | none, none =>
    match (fields.lookup "_record").filter fun d => !(d matches .null) with
    | some d =>
      some (.plain "AttributeError" ("'" ++ d.kindWord ++ "' object has no attribute 'name'"))
    | none =>
      match l.console with
      | .error fault => if forPrograms then none else some fault
      | .ok _ => none

end LogLine

end Rechristen
