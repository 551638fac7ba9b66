/-!
# Spans

A span is a half-open interval `[start, stop)`.  Sources are cut by spans of byte offsets; the
arithmetic needs no more than an order.

An offset below zero counts from the end of what is cut, and one beyond either end is taken for that
end.
-/

namespace Rechristen

/-- A half-open interval. -/
structure Span (α : Type) [LE α] where
  start : α
  stop : α
  ordered : start ≤ stop
  deriving DecidableEq

/-- A span of byte offsets into a file. -/
abbrev ByteSpan := Span Int

namespace Span

variable {α : Type}

/-- Bounds that are not in order. -/
structure Disorder (α : Type) where
  start : α
  stop : α
  deriving DecidableEq

/-- What is said of bounds that are not in order. -/
def Disorder.message [ToString α] (d : Disorder α) : String :=
  "Invalid span: " ++ toString d.start ++ " > " ++ toString d.stop

/-- The interval from `start` to `stop`, if they are in order. -/
def ofBounds [LE α] [DecidableLE α] (start stop : α) : Except (Disorder α) (Span α) :=
  if ordered : start ≤ stop then .ok ⟨start, stop, ordered⟩ else .error ⟨start, stop⟩

/-- The other span lies inside this one. -/
def contains [LE α] [DecidableLE α] (a b : Span α) : Bool :=
  decide (a.start ≤ b.start) && decide (b.stop ≤ a.stop)

/-- The two spans have a point in common, or one of them is empty and lies strictly inside the
other. -/
def overlaps [LE α] [LT α] [DecidableLT α] (a b : Span α) : Bool :=
  decide (a.start < b.stop) && decide (b.start < a.stop)

/-- Nothing lies in the span. -/
def isEmpty [LE α] [DecidableEq α] (a : Span α) : Bool :=
  decide (a.start = a.stop)

/-- The empty span at an offset. -/
def point (offset : Int) : ByteSpan :=
  ⟨offset, offset, Int.le_refl _⟩

/-- How many bytes lie in the span. -/
def length (span : ByteSpan) : Nat :=
  (span.stop - span.start).toNat

end Span

/-! ## Cutting at offsets -/

namespace Offset

variable {β : Type}

/-- The index an offset tells in a list of a given length. -/
def index (length : Nat) (offset : Int) : Nat :=
  if offset < 0 then (length + offset).toNat else offset.toNat

/-- The elements before an offset. -/
def before (offset : Int) (xs : List β) : List β :=
  xs.take (index xs.length offset)

/-- The elements from an offset on. -/
def onward (offset : Int) (xs : List β) : List β :=
  xs.drop (index xs.length offset)

/-- The elements from one offset up to another; none if the first lies behind the second. -/
def between (start stop : Int) (xs : List β) : List β :=
  (before stop xs).drop (index xs.length start)

end Offset

/-- The elements of a list whose offsets lie in the span. -/
def Span.slice {β : Type} (span : ByteSpan) (xs : List β) : List β :=
  Offset.between span.start span.stop xs

end Rechristen
