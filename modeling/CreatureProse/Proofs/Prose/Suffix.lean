import CreatureProse.Proofs.Prose.Cursor

/-
  The text from a position on as a text of its own. Each of its
  positions is one of the whole text, moved to the right, and
  the same characters lie ahead of both.

  Main declarations:
    * `Cursor.suffix`
    * `Cursor.within`
    * `Cursor.ahead_within`
    * `Cursor.next?_within`
    * `Cursor.textUntil_within`
-/

namespace CreatureProse.Cursor

variable {prose : Prose} (b : Cursor prose)

------------------------------------------------------------
-- Positions in Both Texts
------------------------------------------------------------

/- The text from a position on. -/
def suffix : Prose :=
  prose.extract b.position prose.size

@[simp] theorem size_suffix :
    b.suffix.size = prose.size - b.position := by
  rw [suffix, Array.size_extract, Nat.min_self]

/- A position of the text from `b` on, in the whole text. -/
def within (c : Cursor b.suffix) : Cursor prose where
  position := c.position + b.position
  position_le := by
    have hLe := c.position_le
    have hBreak := b.position_le
    rw [size_suffix] at hLe
    omega

theorem toList_suffix : b.suffix.toList = b.ahead :=
  toList_extract_position b

variable {b} (c d : Cursor b.suffix)

/- The same characters lie ahead in both texts. -/
@[simp] theorem ahead_within : (b.within c).ahead = c.ahead := by
  change prose.toList.drop (c.position + b.position) =
    b.suffix.toList.drop c.position
  rw [toList_suffix, ahead, List.drop_drop, Nat.add_comm]

theorem within_start : b.within (start b.suffix) = b := by
  apply eq_of_position_eq
  exact Nat.zero_add _

theorem within_stop : b.within (stop b.suffix) = stop prose := by
  apply eq_of_ahead_eq
  rw [ahead_within, ahead_stop, ahead_stop]

theorem position_within_lt_iff :
    (b.within c).position < (b.within d).position ↔
      c.position < d.position :=
  Nat.add_lt_add_iff_right

------------------------------------------------------------
-- Looking and Moving
------------------------------------------------------------

theorem next?_within :
    (b.within c).next? =
      c.next?.map fun (a, r) => (a, b.within r) := by
  cases hNext : c.next? with
  | none =>
      rw [Option.map_none, next?_eq_none_iff, ahead_within]
      exact next?_eq_none_iff.mp hNext
  | some step =>
      obtain ⟨a, r⟩ := step
      rw [Option.map_some, next?_eq_some_iff, ahead_within,
        ahead_within]
      exact next?_eq_some_iff.mp hNext

theorem skip?_within (cs : List Char) :
    (b.within c).skip? cs = (c.skip? cs).map b.within := by
  induction cs generalizing c with
  | nil => rfl
  | cons expected more ih =>
      rw [skip?, skip?, next?_within]
      cases c.next? with
      | none => rfl
      | some step =>
          obtain ⟨a, r⟩ := step
          rw [Option.map_some]
          dsimp only
          by_cases hSame : a = expected
          · rw [if_pos hSame, if_pos hSame, ih]
          · rw [if_neg hSame, if_neg hSame, Option.map_none]

theorem atEnd_within : (b.within c).atEnd = c.atEnd := by
  rw [Bool.eq_iff_iff, atEnd, atEnd, beq_iff_eq, beq_iff_eq]
  have hSize := size_suffix b
  have hBreak := b.position_le
  change c.position + b.position = prose.size ↔ _
  omega

theorem peek?_within : (b.within c).peek? = c.peek? := by
  change prose[c.position + b.position]? = b.suffix[c.position]?
  rw [← Array.getElem?_toList, ← Array.getElem?_toList,
    toList_suffix, ahead, List.getElem?_drop, Nat.add_comm]

/- Behind a later position both texts have one character. -/
theorem previous?_within
    (hLater : c.position ≠ 0) :
    (b.within c).previous? = c.previous? := by
  have hWithin : c.position + b.position ≠ 0 := by omega
  change (if c.position + b.position = 0 then none
    else prose[c.position + b.position - 1]?) = _
  rw [if_neg hWithin, previous?, if_neg hLater,
    ← Array.getElem?_toList, ← Array.getElem?_toList,
    toList_suffix, ahead, List.getElem?_drop]
  congr 1
  omega

------------------------------------------------------------
-- Texts
------------------------------------------------------------

theorem rest_within : (b.within c).rest = c.rest := by
  rw [rest_eq, rest_eq, ahead_within]

theorem textUntil_within :
    (b.within c).textUntil (b.within d) = c.textUntil d := by
  change Prose.slice prose (c.position + b.position)
    (d.position + b.position) = _
  rw [textUntil, Prose.slice, Prose.slice, Array.toList_extract,
    Array.toList_extract, List.extract_eq_take_drop,
    List.extract_eq_take_drop, toList_suffix, ahead,
    List.drop_drop]
  congr 2
  · omega
  · rw [Nat.add_comm]

end CreatureProse.Cursor
