/-!
# Places in a source text

A span is a half-open range of bytes together with the line and column of its first byte,
both counted from one. A value that was not read from a source has the span of four zeros.
-/

namespace KotlinLint

/-- A range of bytes of a source, and where it starts for a reader. -/
structure Span where
  /-- First byte of the range. -/
  start : Nat := 0
  /-- First byte after the range. -/
  stop : Nat := 0
  /-- Line of the first byte, counted from one. -/
  line : Nat := 0
  /-- Column of the first byte in its line, in bytes, counted from one. -/
  column : Nat := 0
deriving DecidableEq, Inhabited

namespace Span

/-- Number of bytes covered; a range that ends before it starts covers none. -/
def length (span : Span) : Nat := span.stop - span.start

/-- Whether the span covers no bytes. -/
def isEmpty (span : Span) : Bool := span.length == 0

end Span

/-- A value read from a source, with the place it was read from. -/
structure Placed (α : Type) where
  /-- What was read. -/
  value : α
  /-- Where it was read. -/
  span : Span := {}
deriving DecidableEq

end KotlinLint
