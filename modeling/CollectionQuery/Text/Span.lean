/-!
# Runs of code points

Character classes and case mappings are given as runs of code points with a fixed stride.
-/

namespace CollectionQuery.Text

/-- The code points `first`, `first + stride`, … up to `last`. -/
structure Span where
  /-- The first code point. -/
  first : Nat
  /-- The last code point. -/
  last : Nat
  /-- The distance from one to the next. -/
  stride : Nat

/-- Whether a code point is in the run. -/
def Span.contains (s : Span) (c : Nat) : Bool :=
  s.first ≤ c && c ≤ s.last && (c - s.first) % s.stride == 0

/-- Whether a code point is in one of the runs. -/
def inSpans (spans : List Span) (c : Nat) : Bool := spans.any fun s => s.contains c

end CollectionQuery.Text
