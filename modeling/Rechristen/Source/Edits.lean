import Rechristen.Span
import Rechristen.Text.Encoding

/-!
# Queued edits

A file is changed by replacing spans of its bytes by texts.  Edits are queued and applied all at
once.  Two edits must not overlap; an edit of the same span gives way to a later one.  An insertion
is an edit of an empty span: it may stand at either end of another edit, but not inside it.

Edits are applied from the back of the file to its front, so that the spans of those still to be
applied stay valid.  Of two edits that start at the same offset the one that replaces something goes
first, and the insertion lands in front of it.
-/

namespace Rechristen

/-- A span is to be replaced by a text. -/
structure Edit where
  span : ByteSpan
  text : String
  deriving DecidableEq

/-- The queued edits of a file, in the order in which their spans were first queued. -/
structure Edits where
  queue : List Edit := []
  deriving DecidableEq

namespace Edits

/-- The first queued edit that a span overlaps, other than an edit of the same span. -/
def conflict? (e : Edits) (span : ByteSpan) : Option ByteSpan :=
  (e.queue.find? fun q => q.span ≠ span && span.overlaps q.span).map Edit.span

/-- The queue with an edit; an edit of the same span gives way to it. -/
def put (e : Edits) (edit : Edit) : Edits :=
  if e.queue.any fun q => q.span = edit.span then
    ⟨e.queue.map fun q => if q.span = edit.span then edit else q⟩
  else ⟨e.queue ++ [edit]⟩

/-- Queue an edit, or tell the queued edit it overlaps. -/
def replace (e : Edits) (edit : Edit) : Except ByteSpan Edits :=
  match e.conflict? edit.span with
  | some existing => .error existing
  | none => .ok (e.put edit)

/-- Whether an edit lies in a region that is replaced as a whole.  An insertion at the end of the
region does not. -/
def isAbsorbedBy (region span : ByteSpan) : Bool :=
  region.contains span && span ≠ Span.point region.stop

/-- The queue without the edits that lie in a region. -/
def absorb (e : Edits) (region : ByteSpan) : Edits :=
  ⟨e.queue.filter fun q => !isAbsorbedBy region q.span⟩

/-- Whether an edit counts when a range is rendered: it lies in the range and is no insertion at the
end of a range that holds something. -/
def isWithin (range span : ByteSpan) : Bool :=
  range.contains span && !(span = Span.point range.stop && !range.isEmpty)

/-- Edits from the back of the file to its front. -/
def backToFront (edits : List Edit) : List Edit :=
  edits.mergeSort fun a b =>
    b.span.start < a.span.start || (a.span.start = b.span.start && b.span.stop ≤ a.span.stop)

/-- Bytes that start at `offset`, with one span replaced. -/
def substitute (offset : Int) (bytes : Bytes) (span : ByteSpan) (new : Bytes) : Bytes :=
  Offset.before (span.start - offset) bytes ++ new ++ Offset.onward (span.stop - offset) bytes

/-- Bytes that start at `offset`, with edits applied one after the other. -/
def applyAll (encoding : Encoding) (offset : Int) (bytes : Bytes) : List Edit → Option Bytes
  | [] => some bytes
  | edit :: rest =>
    match encoding.encode? edit.text with
    | some new => applyAll encoding offset (substitute offset bytes edit.span new) rest
    | none => none

/-- The bytes of a range with the edits inside it applied. -/
def renderRange (e : Edits) (encoding : Encoding) (content : Bytes) (range : ByteSpan) :
    Option Bytes :=
  applyAll encoding range.start (range.slice content)
    (backToFront (e.queue.filter fun q => isWithin range q.span))

/-- The bytes of a file with all edits applied. -/
def render (e : Edits) (encoding : Encoding) (content : Bytes) : Option Bytes :=
  applyAll encoding 0 content (backToFront e.queue)

end Edits

end Rechristen
