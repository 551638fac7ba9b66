import Rechristen.Attempt
import Rechristen.Call
import Rechristen.Declaration
import Rechristen.Reference
import Rechristen.Source.Edits
import Rechristen.Text.Lines

/-!
# Source files

A source is a file as it was read, the names found in it and the edits queued for it.  The content
never changes; what the file will be is rendered from the content and the edits.
-/

namespace Rechristen

/-- A file with what was found in it and what is to be changed. -/
structure Source where
  path : Path
  content : Bytes
  language : String := "php"
  encoding : Encoding := .utf8
  /-- The directory of the run. -/
  root : Option Path := none
  /-- The first namespace of the file. -/
  space : Name := ""
  /-- Its declarations, by their places in the session. -/
  declarations : List DeclarationId := []
  references : List Reference := []
  calls : List Call := []
  edits : Edits := {}

namespace Source

/-- The path below the directory of the run, or the path itself. -/
def relativePath (s : Source) : Path :=
  (s.root.bind s.path.relativeTo?).getD s.path

/-- The text of the file as it was read. -/
def text (s : Source) : String :=
  s.encoding.decode s.content

/-- The text of a span as it was read. -/
def textOf (s : Source) (span : ByteSpan) : String :=
  s.encoding.decode (span.slice s.content)

/-- A line of the file as it was read, counted from one. -/
def lineText (s : Source) (n : Nat) : String :=
  Text.line n s.text

/-- The line, counted from one, on which an offset lies. -/
def lineAt (s : Source) (offset : Int) : Nat :=
  (Offset.before offset s.content).count 0x0a + 1

/-- Some edit is queued. -/
def modified (s : Source) : Bool :=
  !s.edits.queue.isEmpty

/-- The number of queued edits. -/
def editCount (s : Source) : Nat :=
  s.edits.queue.length

/-- Queue the replacement of a span. -/
def replace (s : Source) (span : ByteSpan) (new : String) : Attempt Source Unit :=
  match s.edits.replace ⟨span, new⟩ with
  | .ok edits => .success () { s with edits }
  | .error existing => .failure (.editConflict s.path span existing) s

/-- Queue the replacement of a region instead of the edits inside it. -/
def replaceRegion (s : Source) (span : ByteSpan) (new : String) : Attempt Source Unit :=
  { s with edits := s.edits.absorb span }.replace span new

/-- Give a reference a new text. -/
def respellReference (s : Source) (index : Nat) (name : Name) : Attempt Source Unit :=
  match s.references[index]? with
  | none => .success () s
  | some site =>
    (s.replace site.span name).andThen fun _ s =>
      .success () { s with references := s.references.modify index ({ · with name }) }

/-- Give the alias of an import a new text.  An alias without a span stays. -/
def respellAlias (s : Source) (index : Nat) (name : Name) : Attempt Source Unit :=
  match s.references[index]?.bind Reference.aliasSpan with
  | none => .success () s
  | some span =>
    (s.replace span name).andThen fun _ s =>
      .success ()
        { s with references := s.references.modify index ({ · with aliasName := some name }) }

/-- What is to become of one reference. -/
structure Rewording where
  name : Option Name := none
  aliasName : Option Name := none
  deriving DecidableEq

/-- Reword one reference, its name first; the number of changes made. -/
def reword (s : Source) (index : Nat) (w : Rewording) : Attempt Source Nat :=
  let named : Attempt Source Nat :=
    match w.name with
    | none => .success 0 s
    | some name => (s.respellReference index name).map fun _ => 1
  named.andThen fun n s =>
    match w.aliasName with
    | none => .success n s
    | some name => (s.respellAlias index name).map fun _ => n + 1

/-- Reword the references from `index` on, one after the other; the number of changes made. -/
def rewordFrom (s : Source) (index : Nat) : List Rewording → Attempt Source Nat
  | [] => .success 0 s
  | w :: rest =>
    (s.reword index w).andThen fun n s =>
      (s.rewordFrom (index + 1) rest).map (n + ·)

/-- Reword all references, each as told. -/
def rewordAll (s : Source) (words : List Rewording) : Attempt Source Nat :=
  s.rewordFrom 0 words

/-- The text of a range with the edits inside it applied. -/
def renderRange (s : Source) (range : ByteSpan) : Except Failure String :=
  match s.edits.renderRange s.encoding s.content range with
  | some bytes => .ok (s.encoding.decode bytes)
  | none => .error .unwritable

/-- The text of the file with all edits applied. -/
def render (s : Source) : Except Failure String :=
  match s.edits.render s.encoding s.content with
  | some bytes => .ok (s.encoding.decode bytes)
  | none => .error .unwritable

/-- The file in one line. -/
def describe (s : Source) : String :=
  "SourceFile(file=" ++ s.path.toString ++ ", language=" ++ s.language ++ ", edits=" ++
    toString s.editCount ++ ")"

end Source

end Rechristen
