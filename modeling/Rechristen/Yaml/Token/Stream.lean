import Rechristen.Yaml.Token.Property
import Rechristen.Yaml.Token.Scalar

/-!
# The tokens in order

The next token is told from one or two characters, and from whether it stands in brackets.
-/

namespace Rechristen.Yaml

namespace Scanner

/-- A mark that separates documents. -/
def documentMark (s : Scanner) (t : Token) : Except Failure Scanner :=
  (s.unwind (-1)).dropPlace.map fun s => ((s.allowKey false).advance 3).emit t

/-- An opening bracket. -/
def openBracket (s : Scanner) (t : Token) : Except Failure Scanner :=
  s.savePlace.map fun s => ({ s with flow := s.flow + 1, keyAllowed := true } : Scanner).step.emit t

/-- A closing bracket. -/
def closeBracket (s : Scanner) (t : Token) : Except Failure Scanner :=
  if s.flow = 0 then .error .malformed
  else
    s.dropPlace.map fun s =>
      ({ s with flow := s.flow - 1, keyAllowed := false } : Scanner).step.emit t

/-- A comma between brackets. -/
def comma (s : Scanner) : Except Failure Scanner :=
  (s.allowKey true).dropPlace.map fun s => s.step.emit .separator

/-- The dash before an item of a sequence. -/
def dash (s : Scanner) : Except Failure Scanner :=
  if s.flow = 0 && !s.keyAllowed then .error .malformed
  else
    let s := if s.flow = 0 then s.openBlock s.column s.tokens.length .sequenceBlock else s
    (s.allowKey true).dropPlace.map fun s => s.step.emit .item

/-- The question mark before a key. -/
def questionMark (s : Scanner) : Except Failure Scanner :=
  if s.flow = 0 && !s.keyAllowed then .error .malformed
  else
    let s := if s.flow = 0 then s.openBlock s.column s.tokens.length .mappingBlock else s
    (s.allowKey (s.flow = 0)).dropPlace.map fun s => s.step.emit .key

/-- The colon after a key.  If a key may have begun before it, the key did begin there. -/
def colon (s : Scanner) : Except Failure Scanner :=
  match s.places.lookup s.flow with
  | some place =>
    let s := s.forgetPlace.insert place.tokens .key
    let s := if s.flow = 0 then s.openBlock place.column place.tokens .mappingBlock else s
    .ok ((s.allowKey false).step.emit .value)
  | none =>
    if s.flow = 0 && !s.keyAllowed then .error .malformed
    else
      let s := if s.flow = 0 then s.openBlock s.column s.tokens.length .mappingBlock else s
      (s.allowKey (s.flow = 0)).dropPlace.map fun s => s.step.emit .value

/-- A quoted scalar. -/
def quotedScalar (s : Scanner) (quote : Char) : Except Failure Scanner :=
  s.savePlace.bind fun s =>
    ((s.allowKey false).step.quotedText quote [] (s.rest.length + 1)).map
      fun (s, text) => s.emit (.scalar text false)

/-- A plain scalar. -/
def plainScalar (s : Scanner) : Except Failure Scanner :=
  s.savePlace.map fun s =>
    let (s, text) := (s.allowKey false).plainText [] [] (s.rest.length + 1)
    s.emit (.scalar (text.map Char.toNat) true)

/-- A plain scalar can begin here. -/
def atPlain (s : Scanner) : Bool :=
  let c := s.peek 0
  (!isGap c && !indicators.contains c) ||
    (!isGap (s.peek 1) && (c == '-' || (s.flow = 0 && (c == '?' || c == ':'))))

/-- The name or the repetition of a node. -/
def anchored (s : Scanner) (make : String → Token) : Except Failure Scanner := do
  let s ← s.savePlace
  let (s, name) ← (s.allowKey false).step.anchorName
  return s.emit (make name)

/-- The tag of a node. -/
def tagged (s : Scanner) : Except Failure Scanner := do
  let s ← s.savePlace
  let (s, handle, rest) ← (s.allowKey false).tagText
  return s.emit (.tag handle rest)

/-- A directive.  One that is not known has no meaning. -/
def directive (s : Scanner) : Except Failure Scanner := do
  let s ← (s.unwind (-1)).dropPlace
  match (s.allowKey false).step.word? with
  | none => throw .malformed
  | some (name, s) =>
    if !s.atWordEnd then throw .malformed
    let (s, t) ←
      if name == "YAML" then s.version
      else if name == "TAG" then s.handle
      else pure (s.skip (!isBreak ·), Token.directive)
    return (← s.emptyRest).emit t

/-- A block of lines. -/
def blockScalar (s : Scanner) (folds : Bool) : Except Failure Scanner := do
  let s ← (s.allowKey true).dropPlace
  let (s, text) ← s.step.blockText folds
  return s.emit (.scalar (text.map Char.toNat) false)

/-- The next token, with those it closes or opens. -/
def token (s : Scanner) : Except Failure Scanner :=
  let c := s.peek 0
  let free := isGap (s.peek 1)
  if s.column = 0 && c == '%' then s.directive
  else if s.column = 0 && s.atMark '-' then s.documentMark .documentStart
  else if s.column = 0 && s.atMark '.' then s.documentMark .documentEnd
  else if c == '[' then s.openBracket .openList
  else if c == '\x7b' then s.openBracket .openMapping
  else if c == ']' then s.closeBracket .closeList
  else if c == '\x7d' then s.closeBracket .closeMapping
  else if c == ',' then s.comma
  else if c == '-' && free then s.dash
  else if c == '?' && (s.flow > 0 || free) then s.questionMark
  else if c == ':' && (s.flow > 0 || free) then s.colon
  else if c == '*' then s.anchored .repetition
  else if c == '&' then s.anchored .anchor
  else if c == '!' then s.tagged
  else if s.flow = 0 && c == '|' then s.blockScalar false
  else if s.flow = 0 && c == '>' then s.blockScalar true
  else if c == '\'' || c == '"' then s.quotedScalar c
  else if s.atPlain then s.plainScalar
  else .error .malformed

/-- Go on to the next token and read it, with those it closes or opens. -/
def fetch (s : Scanner) : Except Failure Scanner := do
  let s ← (s.toToken (s.rest.length + 1)).dropStale
  let s := s.unwind s.column
  if s.rest.isEmpty then return (← (s.unwind (-1)).dropPlace).emit .fileEnd else s.token

/-- The tokens that stand fast: no key can be found to have begun before one of them. -/
def settled (s : Scanner) : List Token :=
  match s.dropStale with
  | .error _ => s.tokens
  | .ok t => s.tokens.take (t.places.foldl (fun n p => min n p.2.tokens) s.tokens.length)

end Scanner

/-- What scanning a configuration file gives: its tokens, up to its end or up to a failure. -/
structure Scan where
  tokens : List Token
  /-- Why there is nothing after the tokens. -/
  failure : Failure := .malformed

/-- All tokens up to the end of the file or the first failure.  A token is there before the failure
only if it stood fast by then. -/
def Scanner.all (s : Scanner) : Nat → Scan
  | 0 => { tokens := s.tokens }
  | fuel + 1 =>
    match s.fetch with
    | .error failure => { tokens := s.settled, failure }
    | .ok next =>
      if next.tokens.getLast? = some .fileEnd then { tokens := next.tokens } else next.all fuel

/-- The tokens of a configuration file.  A byte order mark at its start is passed over. -/
def scan (cs : List Char) : Scan :=
  let s : Scanner := { rest := cs }
  let s := if s.peek 0 == '\ufeff' then s.step else s
  if cs.all isAllowed then s.all (cs.length + 1) else { tokens := [] }

end Rechristen.Yaml
