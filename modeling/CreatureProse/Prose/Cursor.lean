import CreatureProse.Text.Case

/-
  This file defines the texts that are read and the positions
  in them. A cursor belongs to one text and never lies outside
  of it.

  Key definitions include:
    * `Prose`
    * `Prose.folded`
    * `Cursor`
    * `Cursor.clamped`
    * `Cursor.remaining`
    * `Cursor.next?`
    * `Cursor.skip?`
    * `Cursor.textUntil`
    * `Cursor.rest`
-/

namespace CreatureProse

------------------------------------------------------------
-- Texts
------------------------------------------------------------

/- A text to be read: its characters in order. -/
abbrev Prose :=
  Array Char

namespace Prose

/- A text as it is written. -/
def ofString (s : String) : Prose :=
  s.toList.toArray

/-
  A text with each character folded to lower case. It has as
  many characters as the text itself.
-/
def folded (s : String) : Prose :=
  (s.toList.map Text.foldChar).toArray

/- The characters from one offset up to before another. -/
def slice
    (prose : Prose)
    (start stop : Nat) : String :=
  String.ofList (prose.extract start stop).toList

/- The whole text. -/
def toString (prose : Prose) : String :=
  String.ofList prose.toList

end Prose

------------------------------------------------------------
-- Cursors
------------------------------------------------------------

/- A position in a text, at most its length. -/
structure Cursor (prose : Prose) where
  position : Nat
  position_le : position ≤ prose.size := by omega
deriving DecidableEq

namespace Cursor

variable {prose : Prose}

/- The position before the first character. -/
def start (prose : Prose) : Cursor prose where
  position := 0

/- The position after the last character. -/
def stop (prose : Prose) : Cursor prose where
  position := prose.size

/- The given position, or the end when that comes first. -/
def clamped
    (prose : Prose)
    (position : Nat) : Cursor prose where
  position := min position prose.size

/- The number of characters that lie ahead. -/
def remaining (c : Cursor prose) : Nat :=
  prose.size - c.position

/- Whether no character lies ahead. -/
def atEnd (c : Cursor prose) : Bool :=
  c.position == prose.size

/- Move ahead, at most to the end. -/
def advance
    (c : Cursor prose)
    (count : Nat) : Cursor prose :=
  Cursor.clamped prose (c.position + count)

/- The character right ahead. -/
def peek? (c : Cursor prose) : Option Char :=
  prose[c.position]?

/- The character right behind. -/
def previous? (c : Cursor prose) : Option Char :=
  if c.position = 0 then none else prose[c.position - 1]?

/- The character right ahead and the position after it. -/
def next? (c : Cursor prose) : Option (Char × Cursor prose) :=
  if h : c.position < prose.size then
    some (prose[c.position], { position := c.position + 1 })
  else
    none

/- The position after the given characters, if they come next. -/
def skip? (c : Cursor prose) : List Char → Option (Cursor prose)
| [] => some c
| expected :: more =>
  match c.next? with
  | none => none
  | some (found, rest) =>
    if found = expected then rest.skip? more else none

/- The text between two positions; none if the later is behind. -/
def textUntil
    (c later : Cursor prose) : String :=
  prose.slice c.position later.position

/- The text that lies ahead. -/
def rest (c : Cursor prose) : String :=
  prose.slice c.position prose.size

/- A step over a character leaves less ahead. -/
theorem next?_remaining
    {c rest : Cursor prose}
    {a : Char}
    (h : c.next? = some (a, rest)) :
    rest.remaining < c.remaining := by
  unfold next? at h
  split at h
  · cases h
    simp only [remaining]
    omega
  · cases h

end Cursor

end CreatureProse
