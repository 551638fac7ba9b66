import Rechristen.Yaml.Graph
import Rechristen.Yaml.Value

/-!
# The data of nodes

The data of nodes are made from the outside inwards.  A scalar has its value at once; a sequence or
a mapping is empty at first and waits to be filled.  So of several scalars without a value the one
that stands least deep is reported, and of those the first; and a node can be repeated inside
itself.
-/

namespace Rechristen.Yaml

/-- What was made of a node.  Parts are told by their nodes. -/
inductive Object where
  | value (datum : Datum)
  | list (items : List NodeId)
  | mapping (entries : List Entry)
  | group (members : List NodeId)
  | pairs (items : List Entry)

/-- The nodes of a file and what was made of them so far. -/
structure Builder where
  graph : Graph
  /-- What was made, by the places of the nodes. -/
  objects : Array (Option Object)
  /-- What waits to be filled. -/
  waiting : List NodeId := []

namespace Builder

/-- What was made of a node. -/
def object? (b : Builder) (id : NodeId) : Option Object :=
  (b.objects[id]?).join

/-- The builder with what was made of a node. -/
def put (b : Builder) (id : NodeId) (o : Object) : Builder :=
  { b with objects := b.objects.modify id fun _ => some o }

/-! ## Scalars -/

/-- The text of a node that is taken for a scalar.  A mapping stands for what it holds at the mark
for a default value. -/
def textOf (g : Graph) : Nat → NodeId → Except Failure Text.Codes
  | 0, _ => .error .tooDeep
  | fuel + 1, id =>
    match g.contentAt id with
    | .scalar text => .ok text
    | .sequence _ => .error .malformed
    | .mapping entries =>
      match entries.find? fun e => g.tagAt e.1 = .standard with
      | some (_, value) => textOf g fuel value
      | none => .error .malformed

/-- The value of a node that is taken for a scalar. -/
def scalar (g : Graph) (id : NodeId) : Except Failure Datum :=
  match textOf g (g.size + 1) id with
  | .error f => .error f
  | .ok text =>
    if g.tagAt id = .moment && (g.entriesAt? id).isSome then .error .mappingMoment
    else scalarValue (g.tagAt id) text

/-! ## Sequences and mappings -/

/-- What a node with a tag is before it is filled, unless it has its value at once. -/
def shell? : Tag → Option Object
  | .sequence => some (.list [])
  | .mapping => some (.mapping [])
  | .group => some (.group [])
  | .pairs => some (.pairs [])
  | _ => none

/-- Make a start with a node, unless that was done before. -/
def start (b : Builder) (id : NodeId) : Except Failure Builder :=
  if (b.object? id).isSome then .ok b
  else
    match shell? (b.graph.tagAt id) with
    | some o => .ok { b.put id o with waiting := b.waiting ++ [id] }
    | none => (scalar b.graph id).map fun d => b.put id (.value d)

/-- The key that was made of a node, if it can be one. -/
def key? (b : Builder) (id : NodeId) : Option Datum :=
  match b.object? id with
  | some (.value d) => some d
  | _ => none

/-- The entries with one more.  Of two equal keys the first stays, with the last value. -/
def putEntry (b : Builder) (entries : List Entry) (e : Entry) : List Entry :=
  let same := fun (f : Entry) =>
    match b.key? f.1, b.key? e.1 with
    | some x, some y => x.sameKey y
    | _, _ => false
  if entries.any same then entries.map fun f => if same f then (f.1, e.2) else f
  else entries ++ [e]

/-- Make a start with the entries of a mapping.  A key has its value at once. -/
def startEntries (b : Builder) (done : List Entry) :
    List Entry → Except Failure (Builder × List Entry)
  | [] => .ok (b, done)
  | e :: rest => do
    let b ← b.start e.1
    if (b.key? e.1).isNone then throw .malformed
    let b ← b.start e.2
    startEntries b (b.putEntry done e) rest

/-- Make a start with pairs, each of which is a mapping with one entry. -/
def startPairs (b : Builder) (done : List Entry) :
    List NodeId → Except Failure (Builder × List Entry)
  | [] => .ok (b, done)
  | id :: rest =>
    match b.graph.entriesAt? id with
    | some [e] => do
      let b ← b.start e.1
      let b ← b.start e.2
      startPairs b (done ++ [e]) rest
    | _ => .error .malformed

/-- Make a start with the entries of a node that is to be a mapping, merged. -/
def startMapping (b : Builder) (id : NodeId) : Except Failure (Builder × List Entry) :=
  if (b.graph.entriesAt? id).isNone then .error .malformed
  else do
    let graph ← b.graph.merged id
    startEntries { b with graph } [] ((graph.entriesAt? id).getD [])

/-- The items of a node that is to be a sequence. -/
def itemsOf (g : Graph) (id : NodeId) : Except Failure (List NodeId) :=
  match g.contentAt id with
  | .sequence items => .ok items
  | _ => .error .malformed

/-- Fill what was made of a node. -/
def fill (b : Builder) (id : NodeId) : Except Failure Builder :=
  match b.graph.tagAt id with
  | .sequence => do
    let items ← itemsOf b.graph id
    let b ← items.foldlM start b
    return b.put id (.list items)
  | .pairs => do
    let (b, entries) ← b.startPairs [] (← itemsOf b.graph id)
    return b.put id (.pairs entries)
  | .group => do
    let (b, entries) ← b.startMapping id
    return b.put id (.group (entries.map Prod.fst))
  | _ => do
    let (b, entries) ← b.startMapping id
    return b.put id (.mapping entries)

/-- Fill everything that waits, and what comes to wait meanwhile. -/
def fillAll (b : Builder) : Nat → Except Failure Builder
  | 0 => .ok b
  | fuel + 1 =>
    match b.waiting with
    | [] => .ok b
    | id :: rest => do (← { b with waiting := rest }.fill id).fillAll fuel

/-- Everything made of a node and the nodes inside it.  Each node waits at most once. -/
def complete (graph : Graph) (id : NodeId) : Except Failure Builder := do
  let b ← start { graph, objects := Array.replicate graph.size none } id
  b.fillAll graph.size

/-- The datum of a node, down to a depth. -/
def datum (b : Builder) : Nat → NodeId → Datum
  | 0, id =>
    match b.object? id with
    | some (.value d) => d
    | some (.mapping _) => .mapping []
    | some (.group _) => .group []
    | _ => .list []
  | depth + 1, id =>
    match b.object? id with
    | some (.value d) => d
    | some (.mapping entries) =>
      .mapping (entries.map fun e => (b.datum depth e.1, b.datum depth e.2))
    | some (.group members) => .group (members.map (b.datum depth))
    | some (.pairs items) =>
      .list (items.map fun e => .pair (b.datum depth e.1) (b.datum depth e.2))
    | some (.list items) => .list (items.map (b.datum depth))
    | none => .null

end Builder

end Rechristen.Yaml
