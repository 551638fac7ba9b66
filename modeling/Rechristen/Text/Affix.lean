/-!
# Beginnings, endings and cuts of texts

The naming rules speak of how a name begins, how it ends and where its last separator stands.  All
of it is said on the list of characters, so that facts about lists carry over.
-/

namespace Rechristen.Text

/-- `s` begins with `start`. -/
def begins (s start : String) : Bool :=
  start.toList.isPrefixOf s.toList

/-- `s` ends with `ending`. -/
def ends (s ending : String) : Bool :=
  ending.toList.isSuffixOf s.toList

/-- `s` without its last `n` characters. -/
def dropEnd (s : String) (n : Nat) : String :=
  String.ofList (s.toList.take (s.toList.length - n))

/-- `s` without its first `n` characters. -/
def dropStart (s : String) (n : Nat) : String :=
  String.ofList (s.toList.drop n)

/-- `s` without the characters of a class at its start. -/
def trimStart (p : Char → Bool) (s : String) : String :=
  String.ofList (s.toList.dropWhile p)

/-- `s` without the characters of a class at its end. -/
def trimEnd (p : Char → Bool) (s : String) : String :=
  String.ofList (s.toList.reverse.dropWhile p).reverse

/-- `s` without the characters of a class at both ends. -/
def trim (p : Char → Bool) (s : String) : String :=
  trimEnd p (trimStart p s)

/-- The part of `s` before the first `c`, and the part after it if there is a `c`. -/
def cut (c : Char) (s : String) : String × Option String :=
  match s.toList.dropWhile (· != c) with
  | [] => (s, none)
  | _ :: rest => (String.ofList (s.toList.takeWhile (· != c)), some (String.ofList rest))

/-- The part of `s` before the last `c`, if there is a `c`, and the part after it. -/
def cutLast (c : Char) (s : String) : Option String × String :=
  match s.toList.reverse.dropWhile (· != c) with
  | [] => (none, s)
  | _ :: before =>
    (some (String.ofList before.reverse),
      String.ofList (s.toList.reverse.takeWhile (· != c)).reverse)

/-- The characters of each part of a list between two occurrences of `c`. -/
def partsOf (c : Char) : List Char → List (List Char)
  | [] => [[]]
  | d :: rest =>
    if d = c then [] :: partsOf c rest
    else
      match partsOf c rest with
      | [] => [[d]]
      | part :: parts => (d :: part) :: parts

/-- The parts of `s` between two occurrences of `c`, empty ones included. -/
def splitAt (c : Char) (s : String) : List String :=
  (partsOf c s.toList).map String.ofList

/-- Every occurrence of the character `c` replaced by `by_`. -/
def replaceChar (c : Char) (by_ : String) (s : String) : String :=
  String.ofList (s.toList.flatMap fun d => if d = c then by_.toList else [d])

/-- `s` followed by as many blanks as are missing to `n` characters. -/
def padEnd (n : Nat) (s : String) : String :=
  s ++ String.ofList (List.replicate (n - s.length) ' ')

end Rechristen.Text
