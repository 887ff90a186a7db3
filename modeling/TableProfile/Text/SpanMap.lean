/-!
# Spans of characters

A property of characters is written as the spans of code points that
have it, in ascending order and without overlap. A `SpanMap` gives each
span a value of its own, so that one table can hold a set of characters
(the value is `Unit`) or a letter-case mapping, and one binary search
reads both.
-/

namespace TableProfile.Text

/-- **A span**: the code points from `first` to `last`, both included. -/
structure Span (β : Type) where
  /-- The smallest code point of the span. -/
  first : Nat
  /-- The largest code point of the span. -/
  last : Nat
  /-- What the span says of its characters. -/
  value : β

/-- **A table of spans**, ascending and without overlap. -/
structure SpanMap (β : Type) where
  /-- The spans in ascending order. -/
  spans : Array (Span β)

namespace SpanMap

variable {β : Type}

/-- The span among those from `lo` up to `hi` that holds `code`. -/
def search (spans : Array (Span β)) (code lo hi : Nat) (h : hi ≤ spans.size) :
    Option (Span β) :=
  if inside : lo < hi then
    let mid := (lo + hi) / 2
    have below : mid < hi := by omega
    let span := spans[mid]
    if code < span.first then search spans code lo mid (by omega)
    else if span.last < code then search spans code (mid + 1) hi h
    else some span
  else none
termination_by hi - lo

/-- The span that holds a character. -/
def find? (table : SpanMap β) (c : Char) : Option (Span β) :=
  search table.spans c.toNat 0 table.spans.size (Nat.le_refl _)

/-- Whether some span holds a character. -/
def contains (table : SpanMap β) (c : Char) : Bool :=
  (table.find? c).isSome

/-- A table from its spans, in ascending order. -/
def ofSpans (spans : List (Span β)) : SpanMap β :=
  ⟨spans.toArray⟩

/-- **A set of characters** from the first and the last code point of each
of its spans. -/
def ofPairs (pairs : List (Nat × Nat)) : SpanMap Unit :=
  ofSpans (pairs.map fun (first, last) => ⟨first, last, ()⟩)

end SpanMap

end TableProfile.Text
