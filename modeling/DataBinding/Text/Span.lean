import DataBinding.Text.Utf8

namespace DataBinding

/-!
# Spans of text

A span is a range of UTF-8 byte offsets into a source text.  Slicing walks the
characters of the text and keeps those that start inside the span, so it is
total: a span that leaves the text selects what there is.
-/

/-- A range of byte offsets: `start` is inside, `stop` is the first outside. -/
structure Span where
  start : Nat
  stop : Nat
  deriving Repr, DecidableEq

/-- A value together with the place in the source that it was read from. -/
structure Located (α : Type) where
  value : α
  span : Span
  deriving Repr, DecidableEq

namespace Text

/-- The characters that start in a range of byte offsets, the first of the
characters being at `offset`. -/
def charsBetween
    (span : Span) :
    Nat → List Char → List Char
  | _, [] => []
  | offset, c :: rest =>
      if span.start ≤ offset ∧ offset < span.stop then
        c :: charsBetween span (offset + c.utf8Size) rest
      else
        charsBetween span (offset + c.utf8Size) rest

/-- The part of a text that a span covers. -/
def slice
    (text : String)
    (span : Span) : String :=
  String.ofList (charsBetween span 0 text.toList)

end Text

end DataBinding
