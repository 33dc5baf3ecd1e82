import CreatureProse.Prose.Cursor
import CreatureProse.Span

/-
  A cursor stands for the characters that lie ahead of it.
  Moving over characters takes them away from the front.

  Main declarations:
    * `Cursor.ahead`
    * `Cursor.next?_eq_some_iff`
    * `Cursor.skip?_eq_some_iff`
    * `Cursor.position_eq_add_length`
    * `Cursor.text_between`
    * `Cursor.textUntil_infix`
    * `Cursor.rest_eq`
    * `Cursor.folded_text_between`
-/

namespace CreatureProse.Cursor

variable {prose : Prose} {c r : Cursor prose}

------------------------------------------------------------
-- What Lies Ahead
------------------------------------------------------------

/- The characters that lie ahead. -/
def ahead (c : Cursor prose) : List Char :=
  prose.toList.drop c.position

theorem length_ahead (c : Cursor prose) :
    c.ahead.length = prose.size - c.position := by
  rw [ahead, List.length_drop, Array.length_toList]

@[simp] theorem ahead_start :
    (start prose).ahead = prose.toList := by
  rfl

@[simp] theorem ahead_stop :
    (stop prose).ahead = [] := by
  simp [ahead, stop]

/- Cursors at the same position are equal. -/
theorem eq_of_position_eq
    (hPosition : c.position = r.position) :
    c = r := by
  cases c
  cases r
  cases hPosition
  rfl

/- Cursors with the same characters ahead are equal. -/
theorem eq_of_ahead_eq
    (hAhead : c.ahead = r.ahead) :
    c = r := by
  have hLength := congrArg List.length hAhead
  rw [length_ahead, length_ahead] at hLength
  have hLeft := c.position_le
  have hRight := r.position_le
  apply eq_of_position_eq
  omega

theorem eq_stop_iff :
    c = stop prose ↔ c.ahead = [] := by
  constructor
  · intro hStop
    rw [hStop, ahead_stop]
  · intro hAhead
    apply eq_of_ahead_eq
    rw [hAhead, ahead_stop]

------------------------------------------------------------
-- Moving
------------------------------------------------------------

/- A step takes the first character away. -/
theorem next?_eq_some_iff
    {a : Char} :
    c.next? = some (a, r) ↔ c.ahead = a :: r.ahead := by
  unfold next? ahead
  constructor
  · intro hNext
    split at hNext
    · rename_i hLt
      cases hNext
      have hList : c.position < prose.toList.length := hLt
      rw [List.drop_eq_getElem_cons hList,
        Array.getElem_toList]
    · cases hNext
  · intro hAhead
    have hLength := congrArg List.length hAhead
    rw [List.length_drop, List.length_cons, List.length_drop,
      Array.length_toList] at hLength
    have hLt : c.position < prose.size := by omega
    have hList : c.position < prose.toList.length := hLt
    rw [List.drop_eq_getElem_cons hList, List.cons.injEq,
      Array.getElem_toList] at hAhead
    rw [dif_pos hLt, hAhead.1]
    have hRest : ⟨c.position + 1, by omega⟩ = r :=
      eq_of_ahead_eq hAhead.2
    rw [hRest]

/- There is no step at the end. -/
theorem next?_eq_none_iff :
    c.next? = none ↔ c.ahead = [] := by
  unfold next? ahead
  rw [List.drop_eq_nil_iff, Array.length_toList]
  split
  · rename_i hLt
    simpa using hLt
  · rename_i hGe
    simpa using hGe

/- The next character is the first of those that lie ahead. -/
theorem peek?_eq_head?_ahead (c : Cursor prose) :
    c.peek? = c.ahead.head? := by
  rw [ahead, List.head?_drop, Array.getElem?_toList]
  rfl

/- The given characters are taken away from the front. -/
theorem skip?_eq_some_iff
    {cs : List Char} :
    c.skip? cs = some r ↔ c.ahead = cs ++ r.ahead := by
  induction cs generalizing c with
  | nil =>
      rw [skip?, Option.some.injEq, List.nil_append]
      exact ⟨congrArg ahead, eq_of_ahead_eq⟩
  | cons expected more ih =>
      rw [skip?]
      cases hNext : c.next? with
      | none =>
          rw [next?_eq_none_iff.mp hNext]
          simp
      | some found =>
          obtain ⟨a, following⟩ := found
          have hAhead := next?_eq_some_iff.mp hNext
          rw [hAhead, List.cons_append, List.cons.injEq]
          by_cases hSame : a = expected
          · simp only [hSame, if_true, ih, true_and]
          · simp [hSame]

------------------------------------------------------------
-- What Was Read
------------------------------------------------------------

/- A cursor is ahead by as many characters as were read. -/
theorem position_eq_add_length
    {read : List Char}
    (hRead : c.ahead = read ++ r.ahead) :
    r.position = c.position + read.length := by
  have hLength := congrArg List.length hRead
  rw [List.length_append, length_ahead, length_ahead]
    at hLength
  have hLeft := c.position_le
  have hRight := r.position_le
  omega

theorem position_le_of_ahead_eq
    {read : List Char}
    (hRead : c.ahead = read ++ r.ahead) :
    c.position ≤ r.position := by
  rw [position_eq_add_length hRead]
  exact Nat.le_add_right ..

theorem position_lt_of_ahead_eq
    {read : List Char}
    (hRead : c.ahead = read ++ r.ahead)
    (hNe : read ≠ []) :
    c.position < r.position := by
  rw [position_eq_add_length hRead]
  exact Nat.lt_add_of_pos_right (List.length_pos_iff.mpr hNe)

/- A step over one character moves ahead by one. -/
theorem position_of_ahead_eq_cons
    {a : Char}
    (hRead : c.ahead = a :: r.ahead) :
    r.position = c.position + 1 :=
  position_eq_add_length
    (hRead.trans (List.singleton_append ..).symm)

/- There is a cursor behind any characters that lie ahead. -/
theorem exists_of_ahead_eq_append
    {read rest : List Char}
    (hAhead : c.ahead = read ++ rest) :
    ∃ r : Cursor prose, r.ahead = rest := by
  have hLength := congrArg List.length hAhead
  rw [length_ahead, List.length_append] at hLength
  refine ⟨⟨prose.size - rest.length, by omega⟩, ?_⟩
  have hPosition :
      prose.size - rest.length = c.position + read.length := by
    have hLe := c.position_le
    omega
  change prose.toList.drop (prose.size - rest.length) = rest
  rw [hPosition, ← List.drop_drop]
  change c.ahead.drop read.length = rest
  rw [hAhead, List.drop_left]

theorem exists_of_ahead_eq_cons
    {a : Char}
    {rest : List Char}
    (hAhead : c.ahead = a :: rest) :
    ∃ r : Cursor prose, r.ahead = rest :=
  exists_of_ahead_eq_append
    (hAhead.trans (List.singleton_append ..).symm)

/- The text between two cursors is what was read. -/
theorem text_between
    {read : List Char}
    (hRead : c.ahead = read ++ r.ahead) :
    Span.text ⟨c.position, r.position⟩ prose.toString =
      String.ofList read := by
  have hPosition := position_eq_add_length hRead
  have hCount : r.position - c.position = read.length := by
    omega
  rw [Span.text, Prose.toString, String.toList_ofList, hCount]
  change String.ofList (c.ahead.take read.length) = _
  rw [hRead, List.take_left]

/- Between two cursors lies what takes the one to the other. -/
theorem exists_ahead_eq_append
    (hLe : c.position ≤ r.position) :
    ∃ read, c.ahead = read ++ r.ahead := by
  refine ⟨c.ahead.take (r.position - c.position), ?_⟩
  have hDrop :
      r.ahead = c.ahead.drop (r.position - c.position) := by
    rw [ahead, ahead, List.drop_drop,
      Nat.add_sub_of_le hLe]
  rw [hDrop, List.take_append_drop]

/- The text up to a later cursor is what was read. -/
theorem textUntil_eq
    {read : List Char}
    (hRead : c.ahead = read ++ r.ahead) :
    c.textUntil r = String.ofList read := by
  have hCount : r.position - c.position = read.length := by
    rw [position_eq_add_length hRead]
    omega
  rw [textUntil, Prose.slice, Array.toList_extract,
    List.extract_eq_take_drop, hCount]
  change String.ofList (c.ahead.take read.length) = _
  rw [hRead, List.take_left]

/- What lies between two cursors occurs between outer ones. -/
theorem textUntil_infix
    {x y : Cursor prose}
    (hFirst : c.position ≤ x.position)
    (hInner : x.position ≤ y.position)
    (hLast : y.position ≤ r.position) :
    (x.textUntil y).toList <:+: (c.textUntil r).toList := by
  rcases exists_ahead_eq_append hFirst with ⟨before, hBefore⟩
  rcases exists_ahead_eq_append hInner with ⟨inner, hText⟩
  rcases exists_ahead_eq_append hLast with ⟨after, hAfter⟩
  have hWhole :
      c.ahead = (before ++ inner ++ after) ++ r.ahead := by
    rw [hBefore, hText, hAfter, List.append_assoc,
      List.append_assoc]
  rw [textUntil_eq hText, textUntil_eq hWhole,
    String.toList_ofList, String.toList_ofList]
  exact ⟨before, after, rfl⟩

theorem textUntil_infix_rest
    {x y : Cursor prose}
    (hFirst : c.position ≤ x.position)
    (hInner : x.position ≤ y.position) :
    (x.textUntil y).toList <:+: c.rest.toList := by
  have hRest : c.rest = c.textUntil (stop prose) := rfl
  rw [hRest]
  exact textUntil_infix hFirst hInner y.position_le

/- What is ahead inside what was read is an end of it. -/
theorem exists_suffix_of_position_lt
    {x : Cursor prose}
    {read : List Char}
    (hRead : c.ahead = read ++ r.ahead)
    (hFirst : c.position ≤ x.position)
    (hLast : x.position < r.position) :
    ∃ inner, inner ≠ [] ∧ inner <:+ read ∧
      x.ahead = inner ++ r.ahead := by
  rcases exists_ahead_eq_append hFirst with ⟨before, hBefore⟩
  rcases exists_ahead_eq_append (Nat.le_of_lt hLast) with
    ⟨inner, hInner⟩
  refine ⟨inner, ?_, ⟨before, ?_⟩, hInner⟩
  · rintro rfl
    have hLength := position_eq_add_length hInner
    rw [List.length_nil] at hLength
    omega
  · rw [hRead, hInner, ← List.append_assoc] at hBefore
    exact (List.append_cancel_right hBefore).symm

/- A character that begins inside what was read is part of it. -/
theorem mem_of_position_lt
    {x : Cursor prose}
    {read rest : List Char}
    {a : Char}
    (hRead : c.ahead = read ++ r.ahead)
    (hNext : x.ahead = a :: rest)
    (hFirst : c.position ≤ x.position)
    (hLast : x.position < r.position) :
    a ∈ read := by
  rcases exists_suffix_of_position_lt hRead hFirst hLast with
    ⟨inner, hNe, hSuffix, hInner⟩
  rw [hNext] at hInner
  cases inner with
  | nil => exact absurd rfl hNe
  | cons b more =>
      rw [List.cons_append, List.cons.injEq] at hInner
      rw [hInner.1]
      exact hSuffix.mem (List.mem_cons_self ..)

/- The character that a step passes over lies behind. -/
theorem previous?_eq_some
    {a : Char}
    (hAhead : c.ahead = a :: r.ahead) :
    r.previous? = some a := by
  have hPosition := position_of_ahead_eq_cons hAhead
  rw [previous?, if_neg (by omega), hPosition,
    Nat.add_sub_cancel, ← Array.getElem?_toList]
  have hHead := congrArg List.head? hAhead
  rw [ahead, List.head?_drop] at hHead
  exact hHead

theorem toList_extract_position (c : Cursor prose) :
    (prose.extract c.position prose.size).toList = c.ahead := by
  rw [Array.toList_extract, List.extract_eq_take_drop, ahead]
  apply List.take_of_length_le
  exact Nat.le_of_eq (by
    rw [List.length_drop, Array.length_toList])

/- The text that lies ahead has the characters that do. -/
theorem rest_eq (c : Cursor prose) :
    c.rest = String.ofList c.ahead := by
  rw [rest, Prose.slice, toList_extract_position]

/- Nothing is left at the end. -/
theorem rest_stop :
    (stop prose).rest = "" := by
  simp [rest, stop, Prose.slice]

/- Folding what was read in a text gives what was read. -/
theorem folded_text_between
    {source : String}
    {c r : Cursor (Prose.folded source)}
    {read : List Char}
    (hRead : c.ahead = read ++ r.ahead) :
    (Prose.folded
        (Span.text ⟨c.position, r.position⟩ source)).toList =
      read := by
  have hPosition := position_eq_add_length hRead
  have hCount : r.position - c.position = read.length := by
    omega
  rw [Prose.folded, Span.text, String.toList_ofList, hCount,
    List.map_take, List.map_drop]
  change c.ahead.take read.length = read
  rw [hRead, List.take_left]

end CreatureProse.Cursor
