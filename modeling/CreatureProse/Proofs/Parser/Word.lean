import CreatureProse.Proofs.Parser.Takes

/-
  Words, and the spaces and tabs between them. Each is read as
  far as its characters go.

  Main declarations:
    * `isGap`
    * `Parser.isWordLetter`
    * `Parser.run_word_eq_some`
    * `Parser.run_optional_spaces_iff`
    * `Parser.takes_word`
-/

namespace CreatureProse

/- Whether a character is a space or a tab. -/
def isGap (a : Char) : Bool :=
  a == ' ' || a == '\t'

namespace Parser

variable {prose : Prose} {c r : Cursor prose}

------------------------------------------------------------
-- Kinds of Characters
------------------------------------------------------------

/- Whether a character is part of a word. -/
def isWordLetter (a : Char) : Bool :=
  Text.isAlphanumeric a || isApostrophe a

/- A character that stands between words is none of a word. -/
theorem isWordLetter_eq_false_of_isGap
    {a : Char}
    (hGap : isGap a = true) :
    isWordLetter a = false := by
  rw [isGap, Bool.or_eq_true, beq_iff_eq, beq_iff_eq] at hGap
  rcases hGap with rfl | rfl
  · decide
  · decide

theorem isDigit_eq_false_of_isGap
    {a : Char}
    (hGap : isGap a = true) :
    a.isDigit = false := by
  rw [isGap, Bool.or_eq_true, beq_iff_eq, beq_iff_eq] at hGap
  rcases hGap with rfl | rfl
  · decide
  · decide

/- No space and no tab is part of a word. -/
theorem isGap_eq_false
    {a : Char}
    (hWord : isWordLetter a = true) :
    isGap a = false := by
  cases hGap : isGap a with
  | false => rfl
  | true =>
      rw [isWordLetter_eq_false_of_isGap hGap] at hWord
      cases hWord

theorem contains_gaps : " \t".toList.contains = isGap := by
  funext a
  have hGaps : " \t".toList = [' ', '\t'] := rfl
  rw [hGaps, isGap, Bool.eq_iff_iff, List.contains_iff_mem,
    List.mem_cons, List.mem_singleton, Bool.or_eq_true,
    beq_iff_eq, beq_iff_eq]

/- Digits are among the characters of words. -/
theorem isWordLetter_of_isDigit
    {a : Char}
    (hDigit : a.isDigit = true) :
    isWordLetter a = true := by
  have hHigh : a.toNat ≤ 57 := by
    rw [Char.isDigit, Bool.and_eq_true, decide_eq_true_eq,
      decide_eq_true_eq] at hDigit
    exact hDigit.2
  rw [isWordLetter, Text.isAlphanumeric, if_pos (by omega),
    Char.isAlphanum, hDigit, Bool.or_true, Bool.true_or]

------------------------------------------------------------
-- Words and Spaces
------------------------------------------------------------

/- Characters of a kind are read until another one is next. -/
theorem run_characters_eq_some
    {accept : Char → Bool}
    {s : String} :
    (character accept).repeated1.textOf.run c = some (s, r) ↔
      s.toList ≠ [] ∧ (∀ a ∈ s.toList, accept a = true) ∧
        c.ahead = s.toList ++ r.ahead ∧
        NotNext accept r.ahead := by
  rw [textOf, run_map_eq_some]
  simp only [run_repeated1_character_eq_some]
  constructor
  · rintro ⟨as, ⟨⟨⟨hAccept, hAhead⟩, hNext⟩, hNe⟩, rfl⟩
    rw [String.toList_ofList]
    exact ⟨hNe, hAccept, hAhead, hNext⟩
  · rintro ⟨hNe, hAccept, hAhead, hNext⟩
    exact
      ⟨s.toList, ⟨⟨⟨hAccept, hAhead⟩, hNext⟩, hNe⟩,
        String.ofList_toList⟩

theorem notNext_of_run_characters
    {accept : Char → Bool}
    (hNone :
      (character accept).repeated1.textOf.run c = none) :
    NotNext accept c.ahead := by
  rcases repeatFrom_chain (character accept) c [] with
    ⟨as, m, -, hChain, hStuck⟩
  cases as with
  | nil =>
      cases hChain
      exact stuck_character_iff.mp hStuck
  | cons a more =>
      have hRun :
          (character accept).repeated1.run c =
            some (a :: more, m) :=
        run_repeated1_eq_some.mpr
          ⟨⟨hChain, hStuck⟩, List.cons_ne_nil a more⟩
      rw [textOf, run_map, hRun] at hNone
      cases hNone

theorem run_word_eq_some
    {s : String} :
    word.run c = some (s, r) ↔
      s.toList ≠ [] ∧ (∀ a ∈ s.toList, isWordLetter a = true) ∧
        c.ahead = s.toList ++ r.ahead ∧
        NotNext isWordLetter r.ahead :=
  run_characters_eq_some

theorem run_spaces_eq_some
    {s : String} :
    spaces.run c = some (s, r) ↔
      s.toList ≠ [] ∧ (∀ a ∈ s.toList, isGap a = true) ∧
        c.ahead = s.toList ++ r.ahead ∧
        NotNext isGap r.ahead := by
  rw [spaces, oneOf, contains_gaps, run_characters_eq_some]

/- A text of letters is read as the word that it is. -/
theorem takes_word
    {cs : List Char}
    (hNe : cs ≠ [])
    (hLetters : ∀ a ∈ cs, isWordLetter a = true) :
    Takes word cs (NotNext isWordLetter) (String.ofList cs) := by
  constructor
  intro prose c r hAhead hFollow
  rw [run_word_eq_some, String.toList_ofList]
  exact ⟨hNe, hLetters, hAhead, hFollow⟩

theorem starts_word : Starts isWordLetter word :=
  ((starts_character fun _ => id).repeated1).map

theorem starts_spaces : Starts isGap spaces :=
  (starts_character fun a ha => by
    rwa [contains_gaps] at ha).repeated1.map

/- Spaces that may be missing are all the spaces that are next. -/
theorem run_optional_spaces_iff :
    (∃ s?, spaces.optional.run c = some (s?, r)) ↔
      ∃ gap, (∀ a ∈ gap, isGap a = true) ∧
        c.ahead = gap ++ r.ahead ∧ NotNext isGap r.ahead := by
  constructor
  · rintro ⟨s?, hRun⟩
    rcases run_optional_eq_some.mp hRun with
      ⟨s, hSpaces, -⟩ | ⟨hNone, -, rfl⟩
    · rcases run_spaces_eq_some.mp hSpaces with
        ⟨-, hGap, hAhead, hNext⟩
      exact ⟨s.toList, hGap, hAhead, hNext⟩
    · have hNext := notNext_of_run_characters hNone
      rw [contains_gaps] at hNext
      exact ⟨[], List.forall_mem_nil _, rfl, hNext⟩
  · rintro ⟨gap, hGap, hAhead, hNext⟩
    cases gap with
    | nil =>
        cases Cursor.eq_of_ahead_eq hAhead
        exact ⟨none, starts_spaces.takes_none.run rfl hNext⟩
    | cons a more =>
        have hRun :
            spaces.run c = some (String.ofList (a :: more), r) := by
          rw [run_spaces_eq_some, String.toList_ofList]
          exact ⟨List.cons_ne_nil a more, hGap, hAhead, hNext⟩
        exact ⟨_, run_optional_eq_some.mpr (Or.inl ⟨_, hRun, rfl⟩)⟩

end Parser

end CreatureProse
