import Rechristen.Console.Emoji.Names
import Rechristen.Text.Affix
import Rechristen.Text.Blank
import Rechristen.Text.Case

/-!
# Emoji by name

A name between two colons stands for its emoji.  The name may end in `-text` or `-emoji`, which ask
for the emoji as a symbol or as a picture.  A name that is not known stays as it is.
-/

namespace Rechristen.Emoji

/-- The pairs of a list. -/
def pairs : List String → List (String × String)
  | a :: b :: rest => (a, b) :: pairs rest
  | _ => []

/-- The emoji by their names. -/
def table : List (String × String) :=
  pairs (nameLines.flatMap (Text.splitAt ' '))

/-- The forms an emoji can be asked for in, and the characters that ask for them. -/
def forms : List (String × String) :=
  [("-emoji", "\ufe0f"), ("-text", "\ufe0e")]

/-- A name without its form, and the character that asks for the form. -/
def split (name : String) : String × String :=
  match forms.find? fun f => Text.ends name f.1 with
  | some f => (Text.dropEnd name f.1.length, f.2)
  | none => (name, "")

/-- The emoji with a name. -/
def named? (name : String) : Option String :=
  let (name, form) := split name
  (table.lookup (Text.lowercase name)).map (· ++ form)

/-- What stands between a colon at the start of a text and the next one, if there is no blank. -/
def between? : List Char → Option (List Char)
  | ':' :: rest =>
    let name := rest.takeWhile fun c => c != ':' && !Text.isBlank c
    if rest[name.length]? = some ':' then some name else none
  | _ => none

/-- What a name between colons is shown as. -/
def shown (name : List Char) : List Char :=
  match named? (String.ofList name) with
  | some emoji => emoji.toList
  | none => ':' :: name ++ [':']

/-- Emoji in place of names, after the next `skip` characters, which are dealt with. -/
def replaceFrom (skip : Nat) : List Char → List Char
  | [] => []
  | c :: rest =>
    match skip with
    | k + 1 => replaceFrom k rest
    | 0 =>
      match between? (c :: rest) with
      | some name => shown name ++ replaceFrom (name.length + 1) rest
      | none => c :: replaceFrom 0 rest

/-- Emoji in place of their names. -/
def replace (text : List Char) : List Char :=
  replaceFrom 0 text

end Rechristen.Emoji
