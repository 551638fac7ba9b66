import Rechristen.Fault
import Rechristen.Text.Affix
import Rechristen.Text.Blank
import Rechristen.Text.Case
import Rechristen.Text.Numeral

/-!
# Styles

A style is told by words: traits such as `bold`, which `not` takes away, a colour, a colour
behind the text after `on`, and a link.  Different words can tell the same style.  The words of a
style in their usual order are its name.
-/

namespace Rechristen

/-- A style. -/
structure Style where
  /-- The traits that are given or taken away. -/
  traits : List (String × Bool) := []
  colour : Option String := none
  ground : Option String := none
  link : Option String := none

namespace Style

/-- The traits in their usual order. -/
def traitWords : List String :=
  ["bold", "dim", "italic", "underline", "blink", "blink2", "reverse", "conceal", "strike",
    "underline2", "frame", "encircle", "overline"]

/-- Short words for traits. -/
def shortWords : List (String × String) :=
  [("b", "bold"), ("d", "dim"), ("i", "italic"), ("u", "underline"), ("r", "reverse"),
    ("c", "conceal"), ("s", "strike"), ("uu", "underline2"), ("o", "overline")]

/-- The trait a word stands for. -/
def trait? (word : String) : Option String :=
  if traitWords.contains word then some word else shortWords.lookup word

/-- The colours with a name. -/
def colourNames : List String :=
  ["aquamarine1 aquamarine3 black blue blue1 blue3 blue_violet bright_black bright_blue",
    "bright_cyan bright_green bright_magenta bright_red bright_white bright_yellow cadet_blue",
    "chartreuse1 chartreuse2 chartreuse3 chartreuse4 cornflower_blue cornsilk1 cyan cyan1 cyan2",
    "cyan3 dark_blue dark_cyan dark_goldenrod dark_green dark_khaki dark_magenta",
    "dark_olive_green1 dark_olive_green2 dark_olive_green3 dark_orange dark_orange3 dark_red",
    "dark_sea_green dark_sea_green1 dark_sea_green2 dark_sea_green3 dark_sea_green4",
    "dark_slate_gray1 dark_slate_gray2 dark_slate_gray3 dark_turquoise dark_violet deep_pink1",
    "deep_pink2 deep_pink3 deep_pink4 deep_sky_blue1 deep_sky_blue2 deep_sky_blue3",
    "deep_sky_blue4 dodger_blue1 dodger_blue2 dodger_blue3 gold1 gold3 gray0 gray100 gray11",
    "gray15 gray19 gray23 gray27 gray3 gray30 gray35 gray37 gray39 gray42 gray46 gray50 gray53",
    "gray54 gray58 gray62 gray63 gray66 gray69 gray7 gray70 gray74 gray78 gray82 gray84 gray85",
    "gray89 gray93 green green1 green3 green4 green_yellow grey0 grey100 grey11 grey15 grey19",
    "grey23 grey27 grey3 grey30 grey35 grey37 grey39 grey42 grey46 grey50 grey53 grey54 grey58",
    "grey62 grey63 grey66 grey69 grey7 grey70 grey74 grey78 grey82 grey84 grey85 grey89 grey93",
    "honeydew2 hot_pink hot_pink2 hot_pink3 indian_red indian_red1 khaki1 khaki3 light_coral",
    "light_cyan1 light_cyan3 light_goldenrod1 light_goldenrod2 light_goldenrod3 light_green",
    "light_pink1 light_pink3 light_pink4 light_salmon1 light_salmon3 light_sea_green",
    "light_sky_blue1 light_sky_blue3 light_slate_blue light_slate_gray light_slate_grey",
    "light_steel_blue light_steel_blue1 light_steel_blue3 light_yellow3 magenta magenta1",
    "magenta2 magenta3 medium_orchid medium_orchid1 medium_orchid3 medium_purple medium_purple1",
    "medium_purple2 medium_purple3 medium_purple4 medium_spring_green medium_turquoise",
    "medium_violet_red misty_rose1 misty_rose3 navajo_white1 navajo_white3 navy_blue orange1",
    "orange3 orange4 orange_red1 orchid orchid1 orchid2 pale_green1 pale_green3 pale_turquoise1",
    "pale_turquoise4 pale_violet_red1 pink1 pink3 plum1 plum2 plum3 plum4 purple purple3",
    "purple4 red red1 red3 rosy_brown royal_blue1 salmon1 sandy_brown sea_green1 sea_green2",
    "sea_green3 sky_blue1 sky_blue2 sky_blue3 slate_blue1 slate_blue3 spring_green1",
    "spring_green2 spring_green3 spring_green4 steel_blue steel_blue1 steel_blue3 tan thistle1",
    "thistle3 turquoise2 turquoise4 violet wheat1 wheat4 white yellow yellow1 yellow2 yellow3",
    "yellow4"].flatMap (Text.splitAt ' ')

/-- The characters of a word between a beginning and an ending. -/
def inside? (start ending word : String) : Option String :=
  if Text.begins word start && Text.ends word ending && start.length + ending.length ≤ word.length
  then some (Text.dropEnd (Text.dropStart word start.length) ending.length)
  else none

/-- The number that some digits are written for. -/
def numberOf (digits : String) : Nat :=
  digits.toList.foldl (fun n c => n * 10 + (c.toNat - '0'.toNat)) 0

/-- Three digits at most, for a number below 256. -/
def isShade (digits : String) : Bool :=
  !digits.isEmpty && digits.length ≤ 3 && digits.toList.all Char.isDigit && numberOf digits < 256

/-- Six hexadecimal digits after a hash. -/
def isHexColour (word : String) : Bool :=
  match word.toList with
  | '#' :: digits =>
    digits.length = 6 && digits.all fun c => c.isDigit || ('a' ≤ c && c ≤ 'f')
  | _ => false

/-- The number that a part of a mixture writes, in the digits of any script. -/
def share (part : String) : Except Fault Int :=
  (Text.Numeral.whole 10 part.toList).mapError fun flaw =>
    .plain "ValueError" (flaw.message 10 (Text.quoted part))

/-- Whether three parts make a colour.  A part without digits is no number at all. -/
def mixture? (parts : String) : Except Fault Bool :=
  if parts.isEmpty || !parts.toList.all fun c => c == ',' || (Text.decimalDigit? c).isSome then
    .ok false
  else
    match Text.splitAt ',' parts with
    | [red, green, blue] => do
      let shares := [← share red, ← share green, ← share blue]
      return shares.all (· < 256)
    | _ => .ok false

/-- Whether a word is a colour. -/
def isColour (word : String) : Except Fault Bool :=
  if word = "default" || colourNames.contains word || isHexColour word then .ok true
  else
    match inside? "color(" ")" word, inside? "rgb(" ")" word with
    | some digits, _ => .ok (isShade digits)
    | none, some parts => mixture? parts
    | none, none => .ok false

/-- The style with a trait. -/
def put (s : Style) (trait : String) (given : Bool) : Style :=
  { s with traits := (trait, given) :: s.traits.filter (·.1 != trait) }

/-- What the next word is about. -/
inductive Expecting where
  | anything
  | ground
  | removal
  | link

/-- The style that words tell, if they do. -/
def ofWords? (s : Style) : Expecting → List String → Except Fault (Option Style)
  | .anything, [] => .ok (some s)
  | _, [] => .ok none
  | .ground, word :: rest => do
    if ← isColour (Text.lowercase word) then
      ofWords? { s with ground := some (Text.lowercase word) } .anything rest
    else return none
  | .removal, word :: rest =>
    match trait? word with
    | some trait => ofWords? (s.put trait false) .anything rest
    | none => .ok none
  | .link, word :: rest => ofWords? { s with link := some word } .anything rest
  | .anything, given :: rest => do
    let word := Text.lowercase given
    match word, trait? word with
    | "on", _ => ofWords? s .ground rest
    | "not", _ => ofWords? s .removal rest
    | "link", _ => ofWords? s .link rest
    | _, some trait => ofWords? (s.put trait true) .anything rest
    | _, none =>
      if ← isColour word then ofWords? { s with colour := some word } .anything rest
      else return none

/-- The name of a style. -/
def name (s : Style) : String :=
  let traits := traitWords.filterMap fun word =>
    (s.traits.lookup word).map fun given => if given then word else "not " ++ word
  let words := traits ++ s.colour.toList ++ s.ground.toList.map ("on " ++ ·) ++
    s.link.toList.map ("link " ++ ·)
  if words.isEmpty then "none" else " ".intercalate words

/-- The words of a text. -/
def wordsOf (s : String) : List String :=
  let line := String.ofList (s.toList.map fun c => if Text.isBlank c then ' ' else c)
  (Text.splitAt ' ' line).filter (!·.isEmpty)

/-- The name of the style that a text tells.  A text that tells no style is its own name. -/
def nameOf (text : String) : Except Fault String := do
  if Text.trimBlanks text = "none" then return "none"
  match ← ofWords? {} .anything (wordsOf text) with
  | some s => return s.name
  | none => return Text.lowercase (Text.trimBlanks text)

end Style

end Rechristen
