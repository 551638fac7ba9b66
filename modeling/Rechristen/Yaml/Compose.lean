import Rechristen.Yaml.Graph
import Rechristen.Yaml.Token.Stream

/-!
# Composing the nodes of a configuration file

A configuration file is one document, and a document is one node.  What is left out between two
tokens is an empty scalar.  Tokens are taken one after the other, and nothing is decided before the
token that decides it is there: where the tokens end with a failure, what was wrong before them is
reported first.
-/

namespace Rechristen.Yaml

/-- What handles in tags stand for. -/
abbrev Handles := List (String × String)

/-- The handles that need no directive. -/
def standardHandles : Handles :=
  [("!", "!"), ("!!", "tag:yaml.org,2002:")]

/-- The tokens still to be taken, and what was made of those before them. -/
structure Composer where
  tokens : List Token
  /-- Why there is nothing after the tokens. -/
  failure : Failure
  handles : Handles := standardHandles
  /-- The nodes with names. -/
  anchors : List (String × NodeId) := []
  graph : Graph := #[]

/-- A step of composing. -/
abbrev Composing := StateT Composer (Except Failure)

namespace Composing

/-- The next token, which stays. -/
def peek : Composing Token := do
  let c ← get
  match c.tokens with
  | [] => throw c.failure
  | t :: _ => return t

/-- Take the next token away. -/
def take : Composing Unit :=
  modify fun c => { c with tokens := c.tokens.drop 1 }

/-- The next token is one of some. -/
def isAt (among : List Token) : Composing Bool := do
  return among.contains (← peek)

/-! ## Making nodes -/

/-- What is written before a node. -/
structure Properties where
  anchor : Option String := none
  /-- The tag; none if it is to be told from the node. -/
  tag : Option Tag := none
  /-- The tag is written as a single mark: the node is taken for a plain one. -/
  bare : Bool := false

/-- Whether anything is written. -/
def Properties.isEmpty (p : Properties) : Bool :=
  p.anchor.isNone && p.tag.isNone && !p.bare

/-- A new node.  Its name must not have been given before. -/
def create (p : Properties) (tag : Tag) (content : Content) : Composing NodeId := do
  let c ← get
  let id := c.graph.size
  let named := { c with graph := c.graph.push ⟨tag, content⟩ }
  match p.anchor with
  | none => set named
  | some name =>
    if (c.anchors.lookup name).isSome then throw .malformed
    set { named with anchors := (name, id) :: c.anchors }
  return id

/-- A new scalar. -/
def createScalar (p : Properties) (text : Text.Codes) (plain : Bool) : Composing NodeId :=
  create p (p.tag.getD (if plain || p.bare then Tag.ofPlain text else .text)) (.scalar text)

/-- The scalar where nothing is written. -/
def createEmpty : Composing NodeId :=
  createScalar {} [] true

/-- The node with properties where nothing is written after them.  There is none if there are no
properties either. -/
def emptyNode (p : Properties) : Composing NodeId :=
  if p.isEmpty then throw .malformed else createScalar p [] p.tag.isNone

/-- Give a node its content. -/
def fill (id : NodeId) (content : Content) : Composing NodeId := do
  modify fun c => { c with graph := c.graph.withContent id content }
  return id

/-- The node with a name. -/
def repeated (name : String) : Composing NodeId := do
  match (← get).anchors.lookup name with
  | some id => return id
  | none => throw .malformed

/-- Properties with a tag.  The handle of a tag has to be known. -/
def withTag (p : Properties) (handle? : Option String) (rest : String) : Composing Properties := do
  let name ←
    match handle? with
    | none => pure rest
    | some handle =>
      match (← get).handles.lookup handle with
      | some meaning => pure (meaning ++ rest)
      | none => throw .malformed
  return if name == "!" then { p with bare := true } else { p with tag := some (Tag.ofName name) }

/-- The properties of the next node, name and tag in either order. -/
def properties : Composing Properties := do
  match ← peek with
  | .anchor name =>
    take
    match ← peek with
    | .tag handle rest =>
      take
      withTag { anchor := some name } handle rest
    | _ => return { anchor := some name }
  | .tag handle rest =>
    take
    match ← peek with
    | .anchor name =>
      take
      withTag { anchor := some name } handle rest
    | _ => withTag {} handle rest
  | _ => return {}

/-! ## Reading nodes -/

/-- Where a node may stand.  Sequences and mappings in blocks stand in a block only, and directly
below a key a sequence need not be indented. -/
inductive Position where
  | block
  | belowKey
  | flow
  deriving DecidableEq

/-- How deep nodes may stand inside each other. -/
def deepest : Nat :=
  485

mutual

/-- The next node, which stands inside `depth` others. -/
def node (position : Position) (depth : Nat) : Nat → Composing NodeId
  | 0 => throw .malformed
  | fuel + 1 => do
    if deepest < depth then throw .tooDeep
    match ← peek with
    | .repetition name =>
      take
      repeated name
    | _ =>
      let p ← properties
      match ← peek with
      | .scalar text plain =>
        take
        createScalar p text plain
      | .openList =>
        let id ← create p (p.tag.getD .sequence) (.sequence [])
        take
        fill id (.sequence (← flowItems (depth + 1) true fuel))
      | .openMapping =>
        let id ← create p (p.tag.getD .mapping) (.mapping [])
        take
        fill id (.mapping (← flowEntries (depth + 1) true fuel))
      | .item =>
        if position = .belowKey then
          let id ← create p (p.tag.getD .sequence) (.sequence [])
          fill id (.sequence (← looseItems (depth + 1) fuel))
        else emptyNode p
      | .sequenceBlock =>
        if position = .flow then emptyNode p
        else
          let id ← create p (p.tag.getD .sequence) (.sequence [])
          take
          fill id (.sequence (← blockItems (depth + 1) fuel))
      | .mappingBlock =>
        if position = .flow then emptyNode p
        else
          let id ← create p (p.tag.getD .mapping) (.mapping [])
          take
          fill id (.mapping (← blockEntries (depth + 1) fuel))
      | _ => emptyNode p
termination_by structural fuel => fuel

/-- The next node, empty if one of some tokens stands there. -/
def nodeUnless (position : Position) (depth : Nat) (ends : List Token) : Nat → Composing NodeId
  | 0 => throw .malformed
  | fuel + 1 => do if ← isAt ends then createEmpty else node position depth fuel
termination_by structural fuel => fuel

/-- The items of a sequence that is a block, up to the end of the block. -/
def blockItems (depth : Nat) : Nat → Composing (List NodeId)
  | 0 => throw .malformed
  | fuel + 1 => do
    match ← peek with
    | .blockEnd =>
      take
      return []
    | .item =>
      take
      let id ← nodeUnless .block depth [.item, .blockEnd] fuel
      return id :: (← blockItems depth fuel)
    | _ => throw .malformed
termination_by structural fuel => fuel

/-- The items of a sequence below a key that is no block of its own. -/
def looseItems (depth : Nat) : Nat → Composing (List NodeId)
  | 0 => throw .malformed
  | fuel + 1 => do
    match ← peek with
    | .item =>
      take
      let id ← nodeUnless .block depth [.item, .key, .value, .blockEnd] fuel
      return id :: (← looseItems depth fuel)
    | _ => return []
termination_by structural fuel => fuel

/-- The entries of a mapping that is a block, up to the end of the block. -/
def blockEntries (depth : Nat) : Nat → Composing (List Entry)
  | 0 => throw .malformed
  | fuel + 1 => do
    match ← peek with
    | .blockEnd =>
      take
      return []
    | .key =>
      take
      let key ← nodeUnless .belowKey depth [.key, .value, .blockEnd] fuel
      let value ←
        match ← peek with
        | .value => do
          take
          nodeUnless .belowKey depth [.key, .value, .blockEnd] fuel
        | _ => createEmpty
      return (key, value) :: (← blockEntries depth fuel)
    | _ => throw .malformed
termination_by structural fuel => fuel

/-- The items of a sequence in brackets, up to the closing bracket.  A single pair there is a
mapping. -/
def flowItems (depth : Nat) (first : Bool) : Nat → Composing (List NodeId)
  | 0 => throw .malformed
  | fuel + 1 => do
    if ← isAt [.closeList] then
      take
      return []
    if !first then
      if ← isAt [.separator] then take else throw .malformed
    match ← peek with
    | .closeList =>
      take
      return []
    | .key =>
      if deepest < depth then throw .tooDeep
      let id ← create {} .mapping (.mapping [])
      take
      let entry ← flowPair (depth + 1) [.separator, .closeList] fuel
      let id ← fill id (.mapping [entry])
      return id :: (← flowItems depth false fuel)
    | _ =>
      let id ← node .flow depth fuel
      return id :: (← flowItems depth false fuel)
termination_by structural fuel => fuel

/-- A key in brackets and its value, up to one of the tokens that end it. -/
def flowPair (depth : Nat) (ends : List Token) : Nat → Composing Entry
  | 0 => throw .malformed
  | fuel + 1 => do
    let key ← nodeUnless .flow depth (.value :: ends) fuel
    let value ←
      match ← peek with
      | .value => do
        take
        nodeUnless .flow depth ends fuel
      | _ => createEmpty
    return (key, value)
termination_by structural fuel => fuel

/-- The entries of a mapping in brackets, up to the closing bracket.  A node without a mark is a key
without a value. -/
def flowEntries (depth : Nat) (first : Bool) : Nat → Composing (List Entry)
  | 0 => throw .malformed
  | fuel + 1 => do
    if ← isAt [.closeMapping] then
      take
      return []
    if !first then
      if ← isAt [.separator] then take else throw .malformed
    match ← peek with
    | .closeMapping =>
      take
      return []
    | .key =>
      take
      let entry ← flowPair depth [.separator, .closeMapping] fuel
      return entry :: (← flowEntries depth false fuel)
    | _ =>
      let key ← node .flow depth fuel
      let _ ← peek
      let value ← createEmpty
      return (key, value) :: (← flowEntries depth false fuel)
termination_by structural fuel => fuel

end

/-! ## Documents -/

/-- A token is a directive. -/
def isDirective : Token → Bool
  | .version _ => true
  | .handle _ _ => true
  | .directive => true
  | _ => false

/-- Take directives away; the handles they define.  There is at most one version, whose first number
is one, and no handle is defined twice. -/
def directives (versioned : Bool) (defined : Handles) : Nat → Composing Handles
  | 0 => throw .malformed
  | fuel + 1 => do
    match ← peek with
    | .version major =>
      take
      if versioned || major ≠ 1 then throw .malformed
      directives true defined fuel
    | .handle name meaning =>
      take
      if (defined.lookup name).isSome then throw .malformed
      directives versioned ((name, meaning) :: defined) fuel
    | .directive =>
      take
      directives versioned defined fuel
    | _ => return defined ++ standardHandles

/-- Take the marks of ends of documents away. -/
def documentEnds : Nat → Composing Unit
  | 0 => throw .malformed
  | fuel + 1 => do
    if ← isAt [.documentEnd] then
      take
      documentEnds fuel

/-- Take the directives and the mark at the start of a document away. -/
def documentStart (fuel : Nat) : Composing Unit := do
  let handles ← directives false [] fuel
  modify fun c => { c with handles }
  if ← isAt [.documentStart] then take else throw .malformed

/-- The node of a document after its start. -/
def documentNode (fuel : Nat) : Composing NodeId := do
  let t ← peek
  if isDirective t || [.documentStart, .documentEnd, .fileEnd].contains t then createEmpty
  else node .block 0 fuel

/-- The one document of a file, if there is one. -/
def document (fuel : Nat) : Composing (Option NodeId) := do
  let t ← peek
  if t = .fileEnd then return none
  let root ←
    if isDirective t || t = .documentStart then do
      documentStart fuel
      documentNode fuel
    else node .block 0 fuel
  documentEnds fuel
  if ← isAt [.fileEnd] then return some root
  documentStart fuel
  throw .malformed

end Composing

/-- The nodes of a configuration file, and which of them is its document. -/
def compose (scanned : Scan) : Except Failure (Option NodeId × Graph) :=
  let fuel := 4 * scanned.tokens.length + 4
  match (Composing.document fuel).run { tokens := scanned.tokens, failure := scanned.failure } with
  | .error f => .error f
  | .ok (root, c) => .ok (root, c.graph)

end Rechristen.Yaml
