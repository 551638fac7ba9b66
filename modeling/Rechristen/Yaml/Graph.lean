import Rechristen.Yaml.Failure
import Rechristen.Yaml.Tag

/-!
# Nodes of a configuration file

A node is a scalar, a sequence or a mapping.  A node with a name can be repeated under it, even
inside itself, so nodes do not hold each other: they stand side by side and are told by their
places.
-/

namespace Rechristen.Yaml

/-- The place of a node among those of a file. -/
abbrev NodeId := Nat

/-- A key and its value. -/
abbrev Entry := NodeId × NodeId

/-- What a node holds. -/
inductive Content where
  | scalar (text : Text.Codes)
  | sequence (items : List NodeId)
  | mapping (entries : List Entry)
  deriving Inhabited

/-- A part of a configuration file. -/
structure Node where
  tag : Tag
  content : Content

/-- The nodes of a file. -/
abbrev Graph := Array Node

namespace Graph

/-- The tag of a node. -/
def tagAt (g : Graph) (id : NodeId) : Tag :=
  ((g[id]?).map Node.tag).getD .foreign

/-- What a node holds. -/
def contentAt (g : Graph) (id : NodeId) : Content :=
  ((g[id]?).map Node.content).getD (.scalar [])

/-- The entries of a mapping. -/
def entriesAt? (g : Graph) (id : NodeId) : Option (List Entry) :=
  match g.contentAt id with
  | .mapping entries => some entries
  | _ => none

/-- The nodes with another content for one of them. -/
def withContent (g : Graph) (id : NodeId) (content : Content) : Graph :=
  g.modify id ({ · with content })

/-- The nodes with another tag for one of them. -/
def withTag (g : Graph) (id : NodeId) (tag : Tag) : Graph :=
  g.modify id ({ · with tag })

/-- The number of entries of all mappings and of items of all sequences. -/
def extent (g : Graph) : Nat :=
  g.foldl (fun n node =>
    match node.content with
    | .scalar _ => n
    | .sequence items => n + items.length
    | .mapping entries => n + entries.length) 0

/-! ## Merging

A key with the tag for merging stands for the entries of another mapping, or of several.  They are
put in front of the mapping's own, which win over them.  The mappings they come from are merged
first; a mapping that is met again while it is being merged has lost the key by then. -/

/-- The value at the first key for merging of a mapping, and the nodes without that entry. -/
def takeMerge? (g : Graph) (id : NodeId) : Option (NodeId × Graph) :=
  match g.entriesAt? id with
  | none => none
  | some entries =>
    let isOwn := fun (e : Entry) => g.tagAt e.1 ≠ .merge
    match entries.dropWhile isOwn with
    | [] => none
    | (_, value) :: rest =>
      some (value, g.withContent id (.mapping (entries.takeWhile isOwn ++ rest)))

/-- The nodes with a mapping that has nothing left to be merged: what was collected for it comes in
front, and the mark for a default value is a text among its keys. -/
def finishMerge (g : Graph) (id : NodeId) (merged : List Entry) : Graph :=
  let own := (g.entriesAt? id).getD []
  let g := own.foldl (fun (g : Graph) e =>
    if g.tagAt e.1 = .standard then g.withTag e.1 .text else g) g
  if merged.isEmpty then g else g.withContent id (.mapping (merged ++ own))

mutual

/-- Merge a mapping; `merged` was collected for it so far. -/
def mergeInto : Nat → Graph → NodeId → List Entry → Except Failure Graph
  | 0, _, _, _ => .error .malformed
  | fuel + 1, g, id, merged =>
    match g.takeMerge? id with
    | none => .ok (g.finishMerge id merged)
    | some (value, g) =>
      match g.contentAt value with
      | .scalar _ => .error .malformed
      | .mapping _ =>
        match mergeInto fuel g value [] with
        | .error f => .error f
        | .ok g => mergeInto fuel g id (merged ++ (g.entriesAt? value).getD [])
      | .sequence items =>
        match mergeEach fuel g items with
        | .error f => .error f
        | .ok (g, parts) => mergeInto fuel g id (merged ++ parts.reverse.flatten)

/-- Merge some mappings, one after the other; the entries of each. -/
def mergeEach : Nat → Graph → List NodeId → Except Failure (Graph × List (List Entry))
  | 0, _, _ => .error .malformed
  | _ + 1, g, [] => .ok (g, [])
  | fuel + 1, g, id :: rest =>
    if (g.entriesAt? id).isNone then .error .malformed
    else
      match mergeInto fuel g id [] with
      | .error f => .error f
      | .ok g =>
        (mergeEach fuel g rest).map fun (after, parts) =>
          (after, (g.entriesAt? id).getD [] :: parts)

end

/-- The nodes with a mapping merged.  Each step inwards takes a key for merging away, and goes along
the items of at most one sequence. -/
def merged (g : Graph) (id : NodeId) : Except Failure Graph :=
  mergeInto ((g.extent + 1) * (g.extent + 2)) g id []

end Graph

end Rechristen.Yaml
