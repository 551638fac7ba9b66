import Rechristen.Decimal
import Rechristen.Text.Codes

/-!
# Data

Settings are read from data, and events and faults carry data.  A datum is what a configuration
file can hold.  Mappings keep the order in which they were written.
-/

namespace Rechristen

/-- A value of a configuration file, an event field or the context of a fault. -/
inductive Datum where
  | null
  | bool (value : Bool)
  | int (value : Int)
  | float (value : Float)
  | text (value : String)
  /-- A text with halves of pairs of codes in it. -/
  | unpaired (codes : Text.Codes)
  /-- Bytes. -/
  | octets (bytes : List UInt8)
  /-- A date or a point in time, as it was written. -/
  | timestamp (written : String)
  | list (items : List Datum)
  | mapping (entries : List (Datum × Datum))
  /-- Data without order, each of which is there once. -/
  | group (members : List Datum)
  /-- Two data that belong together. -/
  | pair (first second : Datum)
  deriving Inhabited

/-- Named data, in order. -/
abbrev Fields := List (String × Datum)

namespace Datum

/-- The datum of a text that is given by its codes. -/
def ofCodes (codes : Text.Codes) : Datum :=
  if codes.isText then text codes.text else unpaired codes

/-- One byte inside quotes. -/
def renderOctet (quote : Char) (b : UInt8) : List Char :=
  if b < 0x80 then Text.escapeChar quote (Char.ofNat b.toNat)
  else '\\' :: 'x' :: Text.hex 2 b.toNat

/-- Bytes as they are shown. -/
def renderOctets (bytes : List UInt8) : String :=
  let quote := Text.quoteFor (bytes.map fun b => Char.ofNat b.toNat)
  String.ofList ('b' :: quote :: bytes.flatMap (renderOctet quote) ++ [quote])

mutual

/-- A datum as it is shown in messages. -/
def render : Datum → String
  | null => "None"
  | bool true => "True"
  | bool false => "False"
  | int n => toString n
  | float x => Decimal.ofFloat x
  | text s => Text.quoted s
  | unpaired codes => codes.quoted
  | octets bytes => renderOctets bytes
  | timestamp s => s
  | list items => "[" ++ ", ".intercalate (renderItems items) ++ "]"
  | mapping entries => "\x7b" ++ ", ".intercalate (renderEntries entries) ++ "\x7d"
  | group [] => "set()"
  | group members => "\x7b" ++ ", ".intercalate (renderItems members) ++ "\x7d"
  | pair first second => "(" ++ render first ++ ", " ++ render second ++ ")"

/-- The items of a list as they are shown. -/
def renderItems : List Datum → List String
  | [] => []
  | item :: rest => render item :: renderItems rest

/-- The entries of a mapping as they are shown. -/
def renderEntries : List (Datum × Datum) → List String
  | [] => []
  | (key, value) :: rest => (render key ++ ": " ++ render value) :: renderEntries rest

end

/-- A datum inside a sentence: a text stands for itself. -/
def spoken : Datum → String
  | text s => s
  | d => d.render

/-- The word for the kind of a datum. -/
def kindWord : Datum → String
  | null => "NoneType"
  | bool _ => "bool"
  | int _ => "int"
  | float _ => "float"
  | text _ => "str"
  | unpaired _ => "str"
  | octets _ => "bytes"
  | timestamp s => if s.toList.contains ':' then "datetime.datetime" else "datetime.date"
  | list _ => "list"
  | mapping _ => "dict"
  | group _ => "set"
  | pair _ _ => "tuple"

/-- The text of a text datum. -/
def text? : Datum → Option String
  | text s => some s
  | _ => none

/-- Whether a datum counts as nothing: absent, false, zero or empty. -/
def isNothing : Datum → Bool
  | null => true
  | bool b => !b
  | int n => n == 0
  | float x => x == 0
  | text s => s.isEmpty
  | unpaired _ => false
  | octets bytes => bytes.isEmpty
  | timestamp _ => false
  | list items => items.isEmpty
  | mapping entries => entries.isEmpty
  | group members => members.isEmpty
  | pair _ _ => false

/-- Whether two data are the same key of a mapping. -/
def sameKey : Datum → Datum → Bool
  | null, null => true
  | bool a, bool b => a == b
  | int a, int b => a == b
  | float a, float b => a == b
  | int a, float b => Decimal.wholeOf? b == some a
  | float a, int b => Decimal.wholeOf? a == some b
  | bool a, int b => (if a then 1 else 0) == b
  | int a, bool b => a == (if b then 1 else 0)
  | bool a, float b => (if a then 1 else 0) == b
  | float a, bool b => a == (if b then 1 else 0)
  | text a, text b => a == b
  | unpaired a, unpaired b => a == b
  | octets a, octets b => a == b
  | timestamp a, timestamp b => a == b
  | _, _ => false

/-- The entries with one more; a key that is there keeps its place and gets the new value. -/
def putEntry (entries : List (Datum × Datum)) (key value : Datum) : List (Datum × Datum) :=
  if entries.any fun e => sameKey e.1 key then
    entries.map fun e => if sameKey e.1 key then (e.1, value) else e
  else entries ++ [(key, value)]

/-- The value at a key. -/
def entry? (entries : List (Datum × Datum)) (key : Datum) : Option Datum :=
  (entries.find? fun e => e.1.sameKey key).map Prod.snd

mutual

/-- A datum over another: mappings are joined key by key, anything else replaces what was there. -/
def merge (old : Datum) : Datum → Datum
  | mapping entries =>
    match old with
    | mapping base => mapping (mergeEntries base entries)
    | _ => mapping entries
  | new => new

/-- Entries over others. -/
def mergeEntries (base : List (Datum × Datum)) : List (Datum × Datum) → List (Datum × Datum)
  | [] => base
  | (key, value) :: rest =>
    let joined :=
      match entry? base key with
      | some old => old.merge value
      | none => value
    mergeEntries (putEntry base key joined) rest

end

end Datum

/-- The fields with one more; a name that is there keeps its place and gets the new value. -/
def Fields.put (fields : Fields) (name : String) (value : Datum) : Fields :=
  if fields.any fun f => f.1 == name then
    fields.map fun f => if f.1 == name then (name, value) else f
  else fields ++ [(name, value)]

end Rechristen
