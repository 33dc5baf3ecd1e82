/-
  This file defines spans, which tell where in a text a value
  was read. Offsets count characters, so a span found in the
  folded text covers the same characters of the text as written.

  Key definitions include:
    * `Span`
    * `Span.text`
    * `Span.overlaps`
    * `Located`
-/

namespace CreatureProse

------------------------------------------------------------
-- Spans
------------------------------------------------------------

/- The characters of a text from `start` up to before `stop`. -/
structure Span where
  start : Nat
  stop : Nat
deriving DecidableEq, Repr, Inhabited

namespace Span

/- The empty span at an offset. -/
def point (offset : Nat) : Span where
  start := offset
  stop := offset

/- From the start of one span to the end of another. -/
def upTo
    (s t : Span) : Span where
  start := s.start
  stop := t.stop

/- The span moved to the right. -/
def shifted
    (s : Span)
    (offset : Nat) : Span where
  start := s.start + offset
  stop := s.stop + offset

/- The number of characters of a span that does not end early. -/
def length? (s : Span) : Option Nat :=
  if s.start ≤ s.stop then some (s.stop - s.start) else none

/- Whether a span has equal ends. -/
def isEmpty (s : Span) : Bool :=
  s.start == s.stop

/- Whether two spans have a character in common. -/
def overlaps
    (s t : Span) : Bool :=
  s.start < t.stop && t.start < s.stop

/-
  The characters that a span covers. An end past the end of the
  text counts as the end of the text.
-/
def text
    (s : Span)
    (source : String) : String :=
  String.ofList
    ((source.toList.drop s.start).take (s.stop - s.start))

/- Spans are in order of their starts, then of their ends. -/
instance : Ord Span where
  compare s t :=
    (compare s.start t.start).then (compare s.stop t.stop)

end Span

------------------------------------------------------------
-- Located Values
------------------------------------------------------------

/- A value together with where it was read. -/
structure Located (α : Type) where
  value : α
  span : Span
deriving DecidableEq, Repr

namespace Located

variable {α β : Type}

/- Change the value and keep the place. -/
def map
    (f : α → β)
    (a : Located α) : Located β where
  value := f a.value
  span := a.span

end Located

end CreatureProse
