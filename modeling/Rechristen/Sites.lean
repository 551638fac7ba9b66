import Rechristen.Log.Event
import Rechristen.Name.Resolver
import Rechristen.Source
import Rechristen.SyntaxTree
import Rechristen.Text.Blank

/-!
# Declarations, references and calls of a file

The sites of a file are read off its syntax tree.  The children of the root are taken in order.  A
namespace with a body holds for its body, one without for all that follows.  Everything below a
child is visited in the order of the file, with the declaration it stands in; an anonymous class
hides that declaration from what is inside.  Nothing is looked for below an import or inside a
qualified name.

The nodes still to be visited are kept in a list, so that no depth of nesting is too much.

A site needs a span, and a node whose offsets are not in order has none: reading the sites then
fails at the first such node.
-/

namespace Rechristen

/-- What is found in a file. -/
structure Sites where
  /-- The first namespace of the file. -/
  space : Name := ""
  declarations : List Declaration := []
  references : List Reference := []
  calls : List Call := []

namespace Sites

/-- What is read off a tree, or the first offsets that should have been in order. -/
abbrev Reading := Except (Span.Disorder Int)

/-! ## Kinds of nodes -/

/-- The kind of declaration a node is. -/
def declarationKind? : String → Option Kind
  | "class_declaration" => some .class_
  | "interface_declaration" => some .interface
  | "trait_declaration" => some .trait
  | "enum_declaration" => some .enum
  | _ => none

/-- The kind of call a node is. -/
def callKind? : String → Option CallKind
  | "object_creation_expression" => some .new_
  | "scoped_call_expression" => some .static_
  | "member_call_expression" => some .method
  | "nullsafe_member_call_expression" => some .method
  | _ => none

/-- The node is a name. -/
def isClassName (n : Node) : Bool :=
  n.kind == "name" || n.kind == "qualified_name"

/-- Nodes in which every name is that of a class. -/
def namingKinds : List String :=
  ["named_type", "object_creation_expression", "base_clause", "class_interface_clause",
    "use_declaration", "attribute"]

/-- Nodes in which a class is named by the scope. -/
def scopedKinds : List String :=
  ["scoped_call_expression", "scoped_property_access_expression"]

/-- Words that stand for types and not for classes. -/
def reservedNames : List String :=
  Name.relativeScopes ++
    ["array", "bool", "callable", "false", "float", "int", "iterable", "mixed", "never", "null",
      "object", "string", "true", "void"]

/-- The node is one that may declare a parameter. -/
def isParameter (n : Node) : Bool :=
  n.kind == "simple_parameter" || n.kind == "property_promotion_parameter" ||
    n.kind == "variadic_parameter"

/-- One of the words stands directly in the node. -/
def hasKeyword (n : Node) (words : List String) : Bool :=
  n.children.any fun c => !c.isNamed && words.contains (Text.lowercase c.kind)

/-- A node that may be absent is another one. -/
def sameAs (a : Option Node) (b : Node) : Bool :=
  a.any (·.same b)

/-- A name node names a class, by the node it stands in. -/
def namesClass (parent n : Node) : Bool :=
  if namingKinds.contains parent.kind then true
  else if scopedKinds.contains parent.kind then sameAs (parent.child? "scope") n
  else if parent.kind == "class_constant_access_expression" then
    sameAs parent.namedChildren.head? n
  else if parent.kind == "binary_expression" then
    hasKeyword parent ["instanceof"] && sameAs parent.namedChildren.getLast? n
  else false

/-! ## What is read off one node -/

/-- The text of a node. -/
def textOf (s : Source) (n : Node) : String :=
  s.encoding.decode (Offset.between n.start n.stop s.content)

/-- The blanks and tabs at the start of the line of an offset, up to the offset. -/
def lineIndent (s : Source) (offset : Int) : String :=
  let line := ((Offset.before offset s.content).reverse.takeWhile (· != 0x0a)).reverse
  Text.decodeUtf8 (line.takeWhile fun b => b == 0x20 || b == 0x09)

/-- What a class extends, as written. -/
def parentOf (s : Source) (n : Node) : Option Name :=
  match n.namedChildren.find? (·.kind == "base_clause") with
  | none => none
  | some clause => (clause.namedChildren.find? isClassName).map (textOf s)

/-- The declaration a node makes in a namespace, if it has a name. -/
def declarationOf (s : Source) (space : Name) (kind : Kind) (n : Node) :
    Reading (Option Declaration) :=
  match n.child? "name" with
  | none => return none
  | some name => do
    let nameSpan ← name.span
    return some
      { shortName := textOf s name
        space := space
        kind := kind
        path := s.path
        isAbstract := n.children.any (·.kind == "abstract_modifier")
        parentWritten := if kind = .class_ then parentOf s n else none
        nameSpan := some nameSpan
        line := s.lineAt n.start
        ownsFile := s.path.stem == textOf s name }

/-- The name of a parameter without the signs in front of it. -/
def parameterName (written : String) : String :=
  Text.trimStart (· == '$') (Text.trimBlanks (Text.trimStart (· == '&') written))

/-- The names of the parameters that can be passed by name: those before a variadic one and before
one without a name. -/
def parameterNames (s : Source) : List Node → List String
  | [] => []
  | n :: rest =>
    if !isParameter n then parameterNames s rest
    else if n.kind == "variadic_parameter" then []
    else
      match n.child? "name" with
      | none => []
      | some name => parameterName (textOf s name) :: parameterNames s rest

/-- A method and its parameters, if the node has both. -/
def methodOf? (s : Source) (n : Node) : Option (String × List String) :=
  match n.child? "name", n.child? "parameters" with
  | some name, some parameters =>
    some (Text.lowercase (textOf s name), parameterNames s parameters.namedChildren)
  | _, _ => none

/-- The reference a name node is, if it names a class. -/
def referenceOf (s : Source) (space : Name) (parent n : Node) : Reading (Option Reference) :=
  let name := textOf s n
  if namesClass parent n && !reservedNames.contains (Text.lowercase name) then do
    let span ← n.span
    return some
      { name := name
        kind := if Name.isCompound name then .qualified else .bare
        span := span
        space := space }
  else return none

/-- What an import clause imports and under which name, as far as it was read. -/
structure Clause where
  target : Option Node := none
  asNode : Option Node := none

/-- An import clause after one child more. -/
def Clause.read (c : Clause) (child : Node) : Clause :=
  if sameAs c.asNode child then c
  else if (isClassName child || child.kind == "namespace_name") && c.target.isNone then
    { c with target := some child }
  else if child.kind == "namespace_aliasing_clause" then
    { c with asNode := child.namedChildren.find? (·.kind == "name") }
  else if child.kind == "name" && c.asNode.isNone then { c with asNode := some child }
  else c

/-- The reference an import clause is. -/
def importOf (s : Source) (space : Name) (group : Option Name) (n : Node) :
    Reading (Option Reference) :=
  let clause := n.namedChildren.foldl Clause.read { asNode := n.child? "alias" }
  match clause.target with
  | none => return none
  | some target => do
    let span ← target.span
    let aliasSpan ← clause.asNode.mapM Node.span
    return some
      { name := textOf s target
        kind := .import_
        span := span
        space := space
        aliasName := clause.asNode.map (textOf s)
        aliasSpan := aliasSpan
        group := group }

/-- The words of imports that import no classes. -/
def otherImports : List String := ["function", "const"]

/-- The imports of a group. -/
def groupImports (s : Source) (space : Name) (group : Option Name) (n : Node) :
    Reading (List Reference) :=
  n.namedChildren.filterMapM fun clause =>
    if (clause.kind == "namespace_use_clause" || clause.kind == "namespace_use_group_clause") &&
        !hasKeyword clause otherImports then
      importOf s space group clause
    else return none

/-- The imports among the parts of an import declaration; `group` is the common beginning read so
far. -/
def clauseImports (s : Source) (space : Name) (group : Option Name) :
    List Node → Reading (List Reference)
  | [] => return []
  | n :: rest =>
    if n.kind == "namespace_name" then clauseImports s space (some (textOf s n)) rest
    else if n.kind == "namespace_use_clause" then do
      let found ← importOf s space none n
      return found.toList ++ (← clauseImports s space group rest)
    else if n.kind == "namespace_use_group" then do
      let found ← groupImports s space group n
      return found ++ (← clauseImports s space group rest)
    else clauseImports s space group rest

/-- The class imports of an import declaration. -/
def importsOf (s : Source) (space : Name) (n : Node) : Reading (List Reference) :=
  if hasKeyword n otherImports then return [] else clauseImports s space none n.namedChildren

/-- The arguments of an argument list. -/
def argumentsOf (s : Source) (n : Node) : Reading (List Argument) :=
  n.namedChildren.filterMapM fun c =>
    if c.kind == "variadic_placeholder" then do
      let span ← c.span
      return some { span := span, isUnpacked := true }
    else if c.kind == "argument" then do
      let span ← c.span
      return some
        { span := span
          isNamed := (c.child? "name").isSome
          isUnpacked := c.children.any (·.kind == "variadic_unpacking")
          name := (c.child? "name").map (textOf s) }
    else return none

/-- A call, and the node that names its class if there is one. -/
structure CallFinding where
  call : Call
  className : Option Node := none

/-- The node is one that tells a class. -/
def isDesignator (n : Node) : Bool :=
  isClassName n || n.kind == "relative_scope"

/-- The call with the class that a node tells: a relative word or a name. -/
def CallFinding.bind (s : Source) (call : Call) (n : Node) : CallFinding :=
  let word := Text.lowercase (textOf s n)
  if n.kind == "relative_scope" || Name.relativeScopes.contains word then
    ⟨{ call with relativeScope := some word }, none⟩
  else ⟨call, some n⟩

/-- The text of a node that is a plain name. -/
def plainName? (s : Source) (n : Option Node) : Option String :=
  match n with
  | some n => if n.kind == "name" then some (textOf s n) else none
  | none => none

/-- The call a node makes, if its class and its method can be told as far as needed. -/
def callOf (s : Source) (space : Name) (enclosing : Option Nat) (kind : CallKind) (n : Node) :
    Reading (Option CallFinding) :=
  match (n.child? "arguments").or (n.namedChildren.find? (·.kind == "arguments")) with
  | none => return none
  | some list => do
    let span ← list.span
    let arguments ← argumentsOf s list
    let call : Call :=
      { kind := kind
        span := span
        arguments := arguments
        space := space
        enclosing := enclosing
        lineIndent := lineIndent s n.start
        multiline := s.lineAt list.start != s.lineAt list.stop
        hasComments := list.children.any (·.kind == "comment") }
    return finish call
where
  /-- The call with its class and its method. -/
  finish (call : Call) : Option CallFinding :=
    match kind with
    | .new_ => (n.namedChildren.find? isDesignator).map (CallFinding.bind s call)
    | .static_ =>
      match n.child? "scope", plainName? s (n.child? "name") with
      | some scope, some method =>
        let call := { call with method := some method }
        some (if isDesignator scope then CallFinding.bind s call scope else ⟨call, none⟩)
      | _, _ => none
    | .method => some ⟨{ call with method := plainName? s (n.child? "name") }, none⟩

/-! ## Visiting a tree -/

/-- What was found so far. -/
structure Findings where
  declarations : List Declaration := []
  references : List Reference := []
  calls : List CallFinding := []

/-- A node to be visited: its parent, and the declaration it stands in. -/
structure Visit where
  parent : Node
  node : Node
  enclosing : Option Nat

/-- What is found at a declaring node, and the declaration that its children stand in. -/
def Findings.seeDeclaration (f : Findings) (s : Source) (space : Name) (v : Visit) (kind : Kind) :
    Reading (Findings × Option Nat) := do
  match ← declarationOf s space kind v.node with
  | some d => return ({ f with declarations := f.declarations ++ [d] }, some f.declarations.length)
  | none => return (f, v.enclosing)

/-- What is found at a method. -/
def Findings.seeMethod (f : Findings) (s : Source) (v : Visit) : Findings :=
  match v.enclosing, methodOf? s v.node with
  | some i, some (method, parameters) =>
    { f with declarations := f.declarations.modify i (·.putMethod method parameters) }
  | _, _ => f

/-- What is found at a node that is neither an import nor a name, and the declaration that its
children stand in. -/
def Findings.seeStructure (f : Findings) (s : Source) (space : Name) (v : Visit) :
    Reading (Findings × Option Nat) :=
  match declarationKind? v.node.kind with
  | some kind => f.seeDeclaration s space v kind
  | none =>
    if v.node.kind == "anonymous_class" then return (f, none)
    else if v.node.kind == "method_declaration" then return (f.seeMethod s v, v.enclosing)
    else
      match callKind? v.node.kind with
      | some kind => do
        let found ← callOf s space v.enclosing kind v.node
        return ({ f with calls := f.calls ++ found.toList }, v.enclosing)
      | none => return (f, v.enclosing)

/-- What is found at a node that may name a class. -/
def Findings.seeName (f : Findings) (s : Source) (space : Name) (v : Visit) : Reading Findings :=
  if isClassName v.node then do
    let found ← referenceOf s space v.parent v.node
    return { f with references := f.references ++ found.toList }
  else return f

/-- What is found at a node, and the declaration that its children stand in if they are to be
visited. -/
def Findings.see (f : Findings) (s : Source) (space : Name) (v : Visit) :
    Reading (Findings × Option (Option Nat)) :=
  if v.node.kind == "namespace_use_declaration" then do
    let found ← importsOf s space v.node
    return ({ f with references := f.references ++ found }, none)
  else do
    let f ← f.seeName s space v
    if v.node.kind == "qualified_name" then return (f, none)
    else
      let (f, enclosing) ← f.seeStructure s space v
      return (f, some enclosing)

/-- The visits to the children of a node. -/
def Visit.below (v : Visit) (enclosing : Option Nat) : List Visit :=
  v.node.children.map fun c => ⟨v.node, c, enclosing⟩

/-- The number of nodes still to be visited. -/
def remaining : List Visit → Nat
  | [] => 0
  | v :: rest => v.node.size + remaining rest

theorem remaining_append (a b : List Visit) : remaining (a ++ b) = remaining a + remaining b := by
  induction a with
  | nil => simp [remaining]
  | cons v rest ih => simp only [List.cons_append, remaining, ih]; omega

theorem remaining_map (parent : Node) (enclosing : Option Nat) (nodes : List Node) :
    remaining (nodes.map fun c => ⟨parent, c, enclosing⟩) = Node.sizeAll nodes := by
  induction nodes with
  | nil => rfl
  | cons n rest ih => simp only [List.map_cons, remaining, Node.sizeAll, ih]

theorem remaining_below (v : Visit) (enclosing : Option Nat) :
    remaining (v.below enclosing) + 1 = v.node.size := by
  rw [Visit.below, remaining_map, Node.size_eq]; omega

/-- Visit nodes and all below them, in the order of the file. -/
def scan (s : Source) (space : Name) (f : Findings) (visits : List Visit) : Reading Findings :=
  match visits with
  | [] => .ok f
  | v :: rest =>
    match f.see s space v with
    | .error disorder => .error disorder
    | .ok (f, none) => scan s space f rest
    | .ok (f, some enclosing) => scan s space f (v.below enclosing ++ rest)
termination_by remaining visits
decreasing_by
  · rw [remaining, Node.size_eq]; omega
  · rw [remaining_append, remaining, ← remaining_below v enclosing]; omega

/-- The children of the root still to be visited, the namespace that holds for them, and what was
found; the namespaces met are collected. -/
def scanRoot (s : Source) (root : Node) :
    Name → List Name → Findings → List Node → Reading (List Name × Findings)
  | _, spaces, f, [] => return (spaces, f)
  | space, spaces, f, n :: rest =>
    if n.kind == "namespace_definition" then
      let own := ((n.child? "name").map (textOf s)).getD ""
      match n.child? "body" with
      | none => scanRoot s root own (spaces ++ [own]) f rest
      | some body => do
        let f ← scan s own f [⟨n, body, none⟩]
        scanRoot s root space (spaces ++ [own]) f rest
    else do
      let f ← scan s space f [⟨root, n, none⟩]
      scanRoot s root space spaces f rest

/-! ## The sites of a file -/

/-- The last reference, other than an import, that stands where a node does. -/
def referenceAt? (references : List Reference) (n : Node) : Option Nat :=
  (references.zipIdx.reverse.find? fun r =>
    r.1.kind ≠ .import_ && r.1.span.start = n.start && r.1.span.stop = n.stop).map Prod.snd

/-- The call of a finding, with the reference that names its class. -/
def CallFinding.resolve (references : List Reference) (c : CallFinding) : Call :=
  { c.call with classReference := c.className.bind (referenceAt? references) }

/-- A declaration with the qualified name of what it extends. -/
def withParent (references : List Reference) (d : Declaration) : Declaration :=
  { d with
    parent := d.parentWritten.map (Resolver.ofReferences d.space references).resolve }

/-- The sites of a file, from the root of its syntax tree. -/
def extract (s : Source) (root : Node) : Reading Sites := do
  let (spaces, f) ← scanRoot s root "" [] {} root.children
  return {
    space := spaces.headD ""
    declarations := f.declarations.map (withParent f.references)
    references := f.references
    calls := f.calls.map (CallFinding.resolve f.references) }

/-- What is reported of the sites of a file. -/
def event (path : Path) (sites : Sites) : Event :=
  ⟨.debug, "symbols_extracted",
    [("file", .text path.toString), ("declarations", .int sites.declarations.length),
      ("references", .int sites.references.length), ("calls", .int sites.calls.length)]⟩

end Sites

/-- A source with its sites; its declarations are found from `first` on in the session's list. -/
def Source.withSites (s : Source) (sites : Sites) (first : DeclarationId) : Source :=
  { s with
    space := sites.space
    declarations := List.range' first sites.declarations.length
    references := sites.references
    calls := sites.calls }

end Rechristen
