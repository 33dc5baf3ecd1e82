import CreatureProse.Proofs.Text.Fold
import CreatureProse.Proofs.Text.Split
import CreatureProse.Text.Letter

/-
  Where the two ways of putting upper and lower case on a par
  differ. The lowercase form of a text is the text folded
  character by character unless the text has a capital I with a
  dot above, whose lowercase form is two characters, or a
  capital sigma at the end of a word. The blanks around a text
  stay in its lowercase form.

  Main declarations:
    * `Text.EndsInSigma`
    * `Text.length_lowercase`
    * `Text.toList_lowercase_eq_folded_iff`
    * `Text.lowercase_trim_eq_iff`
-/

namespace CreatureProse.Text

/-
  A word of a text ends in a capital sigma; what stands in front
  of the text is held in reverse.
-/
def EndsInSigma
    (before cs : List Char) : Prop :=
  ∃ front rest, cs = front ++ 'Σ' :: rest ∧
    casedNext (front.reverse ++ before) = true ∧
      casedNext rest = false

------------------------------------------------------------
-- Single Characters
------------------------------------------------------------

theorem lowercaseOf_dotted :
    lowercaseOf 'İ' = ['i', '\u0307'] := by
  decide +kernel

/- Every other character has a lowercase form that long. -/
theorem lowercaseOf_eq_foldChar
    {a : Char}
    (hDotted : a ≠ 'İ') :
    lowercaseOf a = [foldChar a] := by
  unfold foldChar lowercaseOf
  split
  · rfl
  · rfl

theorem foldChar_sigma : foldChar 'Σ' = 'σ' := by
  decide +kernel

/- A table is looked through from its first range to its last. -/
theorem contains_eq_any
    (table : CharTable)
    (a : Char) :
    table.contains a =
      table.toList.any fun range =>
        range.1 ≤ a.toNat && a.toNat ≤ range.2 := by
  rw [CharTable.contains, ← Array.any_toList]

/- The nearest character that is not passed over has a case. -/
theorem casedNext_cons
    {a : Char}
    (rest : List Char)
    (hIgnorable : caseIgnorable.contains a = false) :
    casedNext (a :: rest) = cased.contains a := by
  rw [casedNext, List.dropWhile_cons_of_neg (by simp [hIgnorable])]

------------------------------------------------------------
-- Lengths
------------------------------------------------------------

theorem length_lowercaseFrom
    (before cs : List Char) :
    (lowercaseFrom before cs).length =
      cs.length + cs.count 'İ' := by
  induction cs generalizing before with
  | nil => rfl
  | cons a rest ih =>
      rw [lowercaseFrom, List.length_append, ih, List.length_cons,
        List.count_cons]
      by_cases hSigma : a = 'Σ'
      · have hOther : ¬ (a == 'İ') = true := by
          rw [hSigma]
          decide
        rw [if_pos hSigma, if_neg hOther]
        split
        · simp only [List.length_singleton]
          omega
        · simp only [List.length_singleton]
          omega
      · rw [if_neg hSigma]
        by_cases hDotted : a = 'İ'
        · rw [hDotted, lowercaseOf_dotted, if_pos (by decide)]
          simp only [List.length_cons, List.length_nil]
          omega
        · rw [lowercaseOf_eq_foldChar hDotted,
            if_neg (by simpa using hDotted),
            List.length_singleton]
          omega

/- Each capital I with a dot above makes a text longer by one. -/
theorem length_lowercase (s : String) :
    (lowercase s).length = s.length + s.toList.count 'İ' := by
  rw [lowercase, String.length_ofList, length_lowercaseFrom,
    String.length_toList]

theorem lowercase_ne_empty
    {s : String}
    (hNamed : s ≠ "") :
    lowercase s ≠ "" := by
  intro hEmpty
  have hLength := length_lowercase s
  rw [hEmpty] at hLength
  have hNone : s.length = 0 := by
    change 0 = _ at hLength
    omega
  exact hNamed (String.length_eq_zero_iff.mp hNone)

------------------------------------------------------------
-- Folded Texts
------------------------------------------------------------

theorem not_endsInSigma_nil (before : List Char) :
    ¬ EndsInSigma before [] := by
  rintro ⟨front, rest, hText, -⟩
  cases front with
  | nil => cases hText
  | cons => cases hText

theorem endsInSigma_cons_iff
    {before rest : List Char}
    {a : Char} :
    EndsInSigma before (a :: rest) ↔
      (a = 'Σ' ∧ casedNext before = true ∧
        casedNext rest = false) ∨
        EndsInSigma (a :: before) rest := by
  constructor
  · rintro ⟨front, more, hText, hBefore, hAfter⟩
    cases front with
    | nil =>
        rw [List.nil_append, List.cons.injEq] at hText
        rcases hText with ⟨rfl, rfl⟩
        exact .inl ⟨rfl, hBefore, hAfter⟩
    | cons b front =>
        rw [List.cons_append, List.cons.injEq] at hText
        rcases hText with ⟨rfl, hRest⟩
        rw [List.reverse_cons, List.append_assoc] at hBefore
        exact .inr ⟨front, more, hRest, hBefore, hAfter⟩
  · rintro (⟨rfl, hBefore, hAfter⟩ |
      ⟨front, more, rfl, hBefore, hAfter⟩)
    · exact ⟨[], rest, rfl, hBefore, hAfter⟩
    · refine ⟨a :: front, more, rfl, ?_, hAfter⟩
      rw [List.reverse_cons, List.append_assoc]
      exact hBefore

theorem lowercaseFrom_eq_map_iff
    {cs : List Char}
    (hDotted : 'İ' ∉ cs)
    (before : List Char) :
    lowercaseFrom before cs = cs.map foldChar ↔
      ¬ EndsInSigma before cs := by
  induction cs generalizing before with
  | nil => exact iff_of_true rfl (not_endsInSigma_nil before)
  | cons a rest ih =>
      rw [List.mem_cons, not_or] at hDotted
      rw [endsInSigma_cons_iff, not_or, ← ih hDotted.2,
        lowercaseFrom, List.map_cons]
      by_cases hSigma : a = 'Σ'
      · subst hSigma
        rw [if_pos rfl, foldChar_sigma]
        cases casedNext before with
        | false => simp
        | true =>
            cases casedNext rest with
            | false => simp
            | true => simp
      · rw [if_neg hSigma, lowercaseOf_eq_foldChar
          (Ne.symm hDotted.1)]
        simp [hSigma]

/- The lowercase form is the folded text but for two letters. -/
theorem toList_lowercase_eq_folded_iff
    {s : String} :
    (lowercase s).toList = folded s ↔
      'İ' ∉ s.toList ∧ ¬ EndsInSigma [] s.toList := by
  constructor
  · intro hSame
    have hLength := congrArg List.length hSame
    rw [String.length_toList, length_lowercase, length_folded,
      Nat.add_eq_left] at hLength
    have hDotted := List.count_eq_zero.mp hLength
    rw [lowercase, String.toList_ofList] at hSame
    exact ⟨hDotted, (lowercaseFrom_eq_map_iff hDotted []).mp hSame⟩
  · rintro ⟨hDotted, hSigma⟩
    rw [lowercase, String.toList_ofList]
    exact (lowercaseFrom_eq_map_iff hDotted []).mpr hSigma

------------------------------------------------------------
-- Trimmed Texts
------------------------------------------------------------

/- What trimming takes away is missing in the lowercase form. -/
theorem lowercase_trim_eq_iff
    {s : String} :
    lowercase s = lowercase (trim s) ↔ trim s = s := by
  constructor
  · intro hSame
    rcases exists_append_trimWhere isBlank s.toList with
      ⟨front, back, hBlank, hText⟩
    have hTrim : (trim s).toList = trimWhere isBlank s.toList :=
      String.toList_ofList
    have hLength := congrArg String.length hSame
    rw [length_lowercase, length_lowercase,
      ← String.length_toList, ← String.length_toList, hTrim]
      at hLength
    have hSize := congrArg List.length hText
    have hCount := congrArg (List.count 'İ') hText
    rw [List.length_append, List.length_append] at hSize
    rw [List.count_append, List.count_append] at hCount
    have hFront : front = [] :=
      List.length_eq_zero_iff.mp (by omega)
    have hBack : back = [] :=
      List.length_eq_zero_iff.mp (by omega)
    rw [hFront, hBack, List.nil_append, List.append_nil] at hText
    rw [trim, ← hText, String.ofList_toList]
  · intro hSame
    rw [hSame]

end CreatureProse.Text
