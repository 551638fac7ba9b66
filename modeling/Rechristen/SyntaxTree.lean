import Rechristen.Span

/-!
# Syntax trees

The tree of a parsed file.  A node has a kind, the offsets of its first byte and of the byte behind
its last, perhaps the name of the field it fills in its parent, and children.  Nothing is asked of
the offsets: whoever needs them as a span has to look at their order.  Named nodes stand for parts
of the language, the others for keywords and punctuation.  Where the parser could not make sense of
the file there are nodes of kind `ERROR`, and nodes that are missing.
-/

namespace Rechristen

/-- A node of a syntax tree. -/
inductive Node where
  | mk (kind : String) (isNamed isMissing : Bool) (start stop : Int)
      (field : Option String) (children : List Node)

namespace Node

/-- What the node stands for. -/
def kind : Node → String
  | mk kind _ _ _ _ _ _ => kind

/-- The node stands for a part of the language. -/
def isNamed : Node → Bool
  | mk _ isNamed _ _ _ _ _ => isNamed

/-- The node was expected and is not there. -/
def isMissing : Node → Bool
  | mk _ _ isMissing _ _ _ _ => isMissing

/-- The offset of the first byte. -/
def start : Node → Int
  | mk _ _ _ start _ _ _ => start

/-- The offset behind the last byte. -/
def stop : Node → Int
  | mk _ _ _ _ stop _ _ => stop

/-- The field the node fills in its parent. -/
def field : Node → Option String
  | mk _ _ _ _ _ field _ => field

/-- The children, in order. -/
def children : Node → List Node
  | mk _ _ _ _ _ _ children => children

mutual

/-- The number of nodes of a tree. -/
def size : Node → Nat
  | mk _ _ _ _ _ _ children => 1 + sizeAll children

/-- The number of nodes of some trees. -/
def sizeAll : List Node → Nat
  | [] => 0
  | node :: rest => node.size + sizeAll rest

end

mutual

/-- The nodes of a tree, each before its children. -/
def preorder : Node → List Node
  | mk kind isNamed isMissing start stop field children =>
    mk kind isNamed isMissing start stop field children :: preorderAll children

/-- The nodes of some trees, one tree after the other. -/
def preorderAll : List Node → List Node
  | [] => []
  | node :: rest => node.preorder ++ preorderAll rest

end

theorem size_eq (n : Node) : n.size = 1 + sizeAll n.children := by
  cases n; rfl

/-- The named children. -/
def namedChildren (n : Node) : List Node :=
  n.children.filter isNamed

/-- The first child that fills a field. -/
def child? (n : Node) (field : String) : Option Node :=
  n.children.find? fun c => c.field == some field

/-- The node says that something is wrong. -/
def isError (n : Node) : Bool :=
  n.kind == "ERROR" || n.isMissing

/-- The nodes of a tree that say that something is wrong. -/
def errors (n : Node) : List Node :=
  n.preorder.filter isError

/-- Two nodes are of one kind and take the same bytes. -/
def same (a b : Node) : Bool :=
  a.start == b.start && a.stop == b.stop && a.kind == b.kind

/-- The bytes of the node as a span, if its offsets are in order. -/
def span (n : Node) : Except (Span.Disorder Int) ByteSpan :=
  Span.ofBounds n.start n.stop

end Node

/-- A parsed file. -/
structure SyntaxTree where
  root : Node
  /-- What the parser itself says about errors. -/
  flagged : Option Bool := none

namespace SyntaxTree

/-- Whether the file has errors: as the parser says, or else if a node says so. -/
def hasError (t : SyntaxTree) : Bool :=
  t.flagged.getD !t.root.errors.isEmpty

/-- The tree of a file in one line. -/
def describe (_ : SyntaxTree) (file language : String) : String :=
  "AstTree(file=" ++ file ++ ", language=" ++ language ++ ")"

end SyntaxTree

end Rechristen
