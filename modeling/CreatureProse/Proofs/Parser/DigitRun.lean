import CreatureProse.Proofs.Parser.Numeral
import Mathlib.Data.List.TakeWhile

/-
  Numbers in a run of digits. A number that is read in a run of
  digits is made of all of them from its first one on. Further
  to the left in the same run a number is read, to the same end,
  as long as it is not too large. So a search that tries the
  digits of a run one after the other takes the longest end of
  the run that stands for a number it can hold.

  Main declarations:
    * `Prose.digitsBehind`
    * `Prose.digitsAhead`
    * `Parser.LongestEnd`
    * `Parser.LongestEnd.whole_iff`
    * `Parser.LongestEnd.le_of_lt`
    * `Parser.exists_longestEnd`
    * `Parser.run_number_in_front`
-/

namespace CreatureProse

------------------------------------------------------------
-- Runs of Digits
------------------------------------------------------------

namespace Prose

/- The digits right in front of a position. -/
def digitsBehind
    (prose : Prose)
    (i : Nat) : List Char :=
  ((prose.toList.take i).reverse.takeWhile Char.isDigit).reverse

/- The digits from a position on. -/
def digitsAhead
    (prose : Prose)
    (i : Nat) : List Char :=
  (prose.toList.drop i).takeWhile Char.isDigit

end Prose

namespace Parser

variable {prose : Prose} {c d r : Cursor prose}

theorem digitsAhead_eq
    {digits : List Char}
    (hDigits : ∀ a ∈ digits, a.isDigit = true)
    (hAhead : c.ahead = digits ++ r.ahead)
    (hNext : NotNext Char.isDigit r.ahead) :
    prose.digitsAhead c.position = digits := by
  have hNone : r.ahead.takeWhile Char.isDigit = [] := by
    cases hRest : r.ahead with
    | nil => rfl
    | cons a rest =>
        rw [hRest, notNext_cons] at hNext
        exact List.takeWhile_cons_of_neg (by simp [hNext])
  change c.ahead.takeWhile Char.isDigit = digits
  rw [hAhead, List.takeWhile_append_of_pos hDigits, hNone,
    List.append_nil]

theorem digitsAhead_eq_nil_iff :
    prose.digitsAhead c.position = [] ↔
      NotNext Char.isDigit c.ahead := by
  change c.ahead.takeWhile Char.isDigit = [] ↔ _
  cases c.ahead with
  | nil => simp
  | cons a rest => simp [List.takeWhile_cons]

/- Digits right in front of a cursor lie ahead of another one. -/
theorem exists_of_suffix_digitsBehind
    {back : List Char}
    (hSuffix : back <:+ prose.digitsBehind c.position) :
    ∃ d : Cursor prose, d.ahead = back ++ c.ahead ∧
      ∀ a ∈ back, a.isDigit = true := by
  have hDigits (a : Char) (ha : a ∈ back) : a.isDigit = true := by
    have hMem := hSuffix.mem ha
    rw [Prose.digitsBehind, List.mem_reverse] at hMem
    exact List.mem_takeWhile_imp hMem
  have hRun :
      prose.digitsBehind c.position <:+
        prose.toList.take c.position := by
    rw [Prose.digitsBehind, ← List.reverse_prefix,
      List.reverse_reverse]
    exact List.takeWhile_prefix _
  rcases hSuffix.trans hRun with ⟨front, hFront⟩
  have hStart :
      (Cursor.start prose).ahead = front ++ (back ++ c.ahead) := by
    rw [Cursor.ahead_start, ← List.append_assoc, hFront]
    exact (List.take_append_drop ..).symm
  rcases Cursor.exists_of_ahead_eq_append hStart with ⟨d, hD⟩
  exact ⟨d, hD, hDigits⟩

------------------------------------------------------------
-- The Longest End
------------------------------------------------------------

/-
  The last digits of a run stand for a number below a bound, and
  with any more digits of the run they do not.
-/
structure LongestEnd
    (bound : Nat)
    (behind digits : List Char) : Prop where
  fits : Text.digitsValue digits < bound
  longest : ∀ back, back ≠ [] → back <:+ behind →
    bound ≤ Text.digitsValue (back ++ digits)

/- The end is all of the run if the whole run fits. -/
theorem LongestEnd.whole_iff
    {bound : Nat}
    {behind digits : List Char}
    (hEnd : LongestEnd bound behind digits) :
    behind = [] ↔ Text.digitsValue (behind ++ digits) < bound := by
  constructor
  · rintro rfl
    exact hEnd.fits
  · intro hFits
    by_cases hNil : behind = []
    · exact hNil
    · have hLarge := hEnd.longest behind hNil List.suffix_rfl
      omega

theorem digitsValue_singleton_lt
    {a : Char}
    (hDigit : a.isDigit = true) :
    Text.digitsValue [a] < 10 := by
  rw [Char.isDigit, Bool.and_eq_true, decide_eq_true_eq,
    decide_eq_true_eq] at hDigit
  have hHigh : a.toNat ≤ 57 := hDigit.2
  have hZero : '0'.toNat = 48 := rfl
  change 10 * 0 + (a.toNat - '0'.toNat) < 10
  omega

/- There is a longest end, as a single digit always fits. -/
theorem exists_longestEnd
    {bound : Nat}
    (hBound : 10 ≤ bound)
    {digits : List Char}
    (hNe : digits ≠ [])
    (hDigits : ∀ a ∈ digits, a.isDigit = true) :
    ∃ back last, digits = back ++ last ∧ last ≠ [] ∧
      LongestEnd bound back last := by
  induction digits with
  | nil => exact absurd rfl hNe
  | cons a rest ih =>
      by_cases hFits : Text.digitsValue (a :: rest) < bound
      · refine ⟨[], a :: rest, rfl, hNe, hFits, ?_⟩
        intro back hBack hSuffix
        exact absurd (List.suffix_nil.mp hSuffix) hBack
      · rw [List.forall_mem_cons] at hDigits
        have hMore : rest ≠ [] := by
          rintro rfl
          have hSingle := digitsValue_singleton_lt hDigits.1
          omega
        rcases ih hMore hDigits.2 with
          ⟨back, last, rfl, hLast, hEnd⟩
        refine ⟨a :: back, last, rfl, hLast, hEnd.fits, ?_⟩
        intro other hOther hSuffix
        rcases List.suffix_cons_iff.mp hSuffix with rfl | hInner
        · exact Nat.le_of_not_lt hFits
        · exact hEnd.longest other hOther hInner

/- From further to the left in the run the number is too large. -/
theorem LongestEnd.le_of_lt
    {x : Cursor prose}
    {bound : Nat}
    {back last : List Char}
    (hEnd : LongestEnd bound back last)
    (hDigits : ∀ a ∈ back ++ last, a.isDigit = true)
    (hAhead : c.ahead = back ++ d.ahead)
    (hLast : d.ahead = last ++ r.ahead)
    (hNext : NotNext Char.isDigit r.ahead)
    (hFrom : c.position ≤ x.position)
    (hTo : x.position < d.position) :
    bound ≤ Text.digitsValue (prose.digitsAhead x.position) := by
  rw [List.forall_mem_append] at hDigits
  rcases Cursor.exists_suffix_of_position_lt hAhead hFrom hTo with
    ⟨inner, hInner, hSuffix, hX⟩
  rw [hLast, ← List.append_assoc] at hX
  have hAll : ∀ a ∈ inner ++ last, a.isDigit = true :=
    List.forall_mem_append.mpr
      ⟨fun a ha => hDigits.1 a (hSuffix.mem ha), hDigits.2⟩
  rw [digitsAhead_eq hAll hX hNext]
  exact hEnd.longest inner hInner hSuffix

------------------------------------------------------------
-- Numbers in a Run
------------------------------------------------------------

/- Of a whole run of digits the number is read that fits. -/
theorem run_number_of_digits
    {s : Cursor prose}
    {n : UInt32}
    {digits : List Char}
    (hNe : digits ≠ [])
    (hDigits : ∀ a ∈ digits, a.isDigit = true)
    (hAhead : c.ahead = digits ++ r.ahead)
    (hNext : NotNext Char.isDigit r.ahead) :
    number.run c = some (n, s) ↔
      Text.digitsValue digits = n.toNat ∧ r = s := by
  rw [run_number_eq_some]
  constructor
  · rintro ⟨others, hOthers, hOther, hStop⟩
    have hSame :=
      (digitsAhead_eq hOthers.isDigit hOther hStop).symm.trans
        (digitsAhead_eq hDigits hAhead hNext)
    rw [hSame] at hOthers hOther
    refine ⟨(numeral_iff.mp hOthers).2.2, ?_⟩
    exact Cursor.eq_of_ahead_eq
      (List.append_cancel_left (hAhead.symm.trans hOther))
  · rintro ⟨hValue, rfl⟩
    exact ⟨digits, numeral_iff.mpr ⟨hNe, hDigits, hValue⟩,
      hAhead, hNext⟩

/- A number that is read has the value of the digits ahead. -/
theorem digitsValue_of_run_number
    {n : UInt32}
    (hRun : number.run c = some (n, r)) :
    Text.digitsValue (prose.digitsAhead c.position) = n.toNat := by
  rcases run_number_eq_some.mp hRun with
    ⟨digits, hDigits, hAhead, hNext⟩
  rw [digitsAhead_eq hDigits.isDigit hAhead hNext]
  exact (numeral_iff.mp hDigits).2.2

theorem digitsAhead_of_run_number
    {n : UInt32}
    (hRun : number.run c = some (n, r)) :
    prose.digitsAhead r.position = [] := by
  rcases run_number_eq_some.mp hRun with ⟨-, -, -, hNext⟩
  exact digitsAhead_eq_nil_iff.mpr hNext

/- Further to the left more digits belong to the number. -/
theorem run_number_in_front
    {n : UInt32}
    {back : List Char}
    (hRun : number.run d = some (n, r))
    (hBack : ∀ a ∈ back, a.isDigit = true)
    (hAhead : c.ahead = back ++ d.ahead)
    (hFits :
      Text.digitsValue (back ++ prose.digitsAhead d.position) <
        0x100000000) :
    ∃ total, number.run c = some (total, r) ∧
      Text.digitsValue (back ++ prose.digitsAhead d.position) =
        total.toNat := by
  rcases run_number_eq_some.mp hRun with
    ⟨digits, hDigits, hFirst, hNext⟩
  rw [digitsAhead_eq hDigits.isDigit hFirst hNext] at hFits ⊢
  have hValue := (UInt32.toNat_ofNat_of_lt' hFits).symm
  refine ⟨_, (run_number_of_digits ?_ ?_ ?_ hNext).mpr
    ⟨hValue, rfl⟩, hValue⟩
  · exact List.append_ne_nil_of_right_ne_nil back hDigits.ne_nil
  · exact List.forall_mem_append.mpr ⟨hBack, hDigits.isDigit⟩
  · rw [hAhead, hFirst, List.append_assoc]

end Parser

end CreatureProse
