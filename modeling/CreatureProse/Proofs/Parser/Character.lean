import CreatureProse.Parser.Character
import CreatureProse.Proofs.Parser.Repeat

/-
  What the parsers of characters, fixed texts, numbers and words
  read, in terms of the characters that lie ahead before and
  after.

  Main declarations:
    * `NotNext`
    * `run_character_eq_some`
    * `run_repeated_character_eq_some`
    * `run_literal_eq_some`
    * `Numeral`
    * `run_number_eq_some`
    * `ahead_of_run_wholeWord`
-/

namespace CreatureProse.Parser

variable {prose : Prose} {c r : Cursor prose}

------------------------------------------------------------
-- Characters
------------------------------------------------------------

/- The next character, if there is one, is not of a kind. -/
def NotNext
    (accept : Char → Bool)
    (cs : List Char) : Prop :=
  ∀ a ∈ cs.head?, accept a = false

@[simp] theorem notNext_nil
    (accept : Char → Bool) :
    NotNext accept [] := by
  intro a ha
  cases ha

@[simp] theorem notNext_cons
    {accept : Char → Bool}
    {a : Char}
    {cs : List Char} :
    NotNext accept (a :: cs) ↔ accept a = false := by
  simp [NotNext]

theorem NotNext.mono
    {accept kind : Char → Bool}
    {cs : List Char}
    (hNext : NotNext accept cs)
    (hKind : ∀ a, kind a = true → accept a = true) :
    NotNext kind cs := by
  intro a ha
  cases hFound : kind a with
  | false => rfl
  | true =>
      have hNone := hNext a ha
      rw [hKind a hFound] at hNone
      cases hNone

/- A character of a kind is not one that has another kind. -/
theorem bne_of_kind
    {kind : Char → Bool}
    {b : Char}
    (hOther : kind b = false)
    (a : Char)
    (ha : kind a = true) :
    (a != b) = true := by
  rw [bne_iff_ne]
  rintro rfl
  rw [hOther] at ha
  cases ha

/- If only one character can be next, none of another kind is. -/
theorem NotNext.of_ne
    {accept : Char → Bool}
    {b : Char}
    {cs : List Char}
    (hNext : NotNext (fun a => a != b) cs)
    (hOther : accept b = false) :
    NotNext accept cs :=
  hNext.mono (bne_of_kind hOther)

theorem run_character_eq_some
    {accept : Char → Bool}
    {a : Char} :
    (character accept).run c = some (a, r) ↔
      accept a = true ∧ c.ahead = a :: r.ahead := by
  unfold character
  dsimp only
  cases hNext : c.next? with
  | none =>
      rw [Cursor.next?_eq_none_iff.mp hNext]
      simp
  | some found =>
      obtain ⟨b, rest⟩ := found
      rw [Cursor.next?_eq_some_iff.mp hNext, List.cons.injEq]
      dsimp only
      constructor
      · intro hRun
        split at hRun
        · rename_i hAccept
          cases hRun
          exact ⟨hAccept, rfl, rfl⟩
        · cases hRun
      · rintro ⟨hAccept, rfl, hRest⟩
        rw [if_pos hAccept, Cursor.eq_of_ahead_eq hRest]

theorem run_char_eq_some
    {expected a : Char} :
    (char expected).run c = some (a, r) ↔
      a = expected ∧ c.ahead = a :: r.ahead := by
  rw [char, run_character_eq_some, beq_iff_eq]

theorem run_oneOf_eq_some
    {set : String}
    {a : Char} :
    (oneOf set).run c = some (a, r) ↔
      a ∈ set.toList ∧ c.ahead = a :: r.ahead := by
  rw [oneOf, run_character_eq_some, List.contains_iff_mem]

/- A plus or a minus, each with a meaning of its own. -/
theorem run_signs_eq_some
    {α : Type}
    {plus minus a : α} :
    ((char '+').as plus <|> (char '-').as minus).run c =
        some (a, r) ↔
      plus = a ∧ c.ahead = '+' :: r.ahead ∨
        minus = a ∧ c.ahead = '-' :: r.ahead := by
  simp only [run_orElse_eq_some, run_as_eq_some,
    run_char_eq_some, exists_eq_left]
  constructor
  · rintro (⟨hAhead, rfl⟩ | ⟨-, hAhead, rfl⟩)
    · exact Or.inl ⟨rfl, hAhead⟩
    · exact Or.inr ⟨rfl, hAhead⟩
  · rintro (⟨rfl, hAhead⟩ | ⟨rfl, hAhead⟩)
    · exact Or.inl ⟨hAhead, rfl⟩
    · refine Or.inr ⟨run_eq_none ?_, hAhead, rfl⟩
      intro a m hPlus
      rcases (run_as_eq_some.mp hPlus).1 with ⟨b, hChar⟩
      rw [run_char_eq_some, hAhead, List.cons.injEq] at hChar
      rcases hChar with ⟨rfl, hEq, -⟩
      exact absurd hEq (by decide)

/- A character of a kind is read where one is next. -/
theorem stuck_character_iff
    {accept : Char → Bool} :
    Stuck (character accept) c ↔ NotNext accept c.ahead := by
  cases hAhead : c.ahead with
  | nil =>
      refine iff_of_true ?_ (notNext_nil accept)
      intro a r hRun
      rw [run_character_eq_some, hAhead] at hRun
      cases hRun.2
  | cons a rest =>
      rw [notNext_cons]
      constructor
      · intro hStuck
        have hOne := hAhead.trans (List.singleton_append ..).symm
        rcases Cursor.exists_of_ahead_eq_append hOne with
          ⟨r, rfl⟩
        have hPosition := Cursor.position_eq_add_length hOne
        rw [List.length_singleton] at hPosition
        cases hAccept : accept a with
        | false => rfl
        | true =>
            have hLe := hStuck a r
              (run_character_eq_some.mpr ⟨hAccept, hAhead⟩)
            omega
      · intro hReject b r hRun
        rw [run_character_eq_some, hAhead, List.cons.injEq]
          at hRun
        rcases hRun with ⟨hAccept, rfl, -⟩
        rw [hReject] at hAccept
        cases hAccept

/- Characters of a kind that lie ahead make up a chain. -/
theorem chain_character_iff
    {accept : Char → Bool}
    {as : List Char} :
    Chain (character accept) c as r ↔
      (∀ a ∈ as, accept a = true) ∧ c.ahead = as ++ r.ahead := by
  constructor
  · intro hChain
    induction hChain with
    | nil => exact ⟨by simp, rfl⟩
    | cons hRun hMoves hMore ih =>
        rw [run_character_eq_some] at hRun
        refine ⟨?_, by rw [hRun.2, ih.2, List.cons_append]⟩
        intro b hb
        rcases List.mem_cons.mp hb with rfl | hb
        · exact hRun.1
        · exact ih.1 b hb
  · rintro ⟨hAccept, hAhead⟩
    induction as generalizing c with
    | nil =>
        rw [Cursor.eq_of_ahead_eq hAhead]
        exact .nil
    | cons a more ih =>
        rw [List.cons_append] at hAhead
        have hOne := hAhead.trans (List.singleton_append ..).symm
        rcases Cursor.exists_of_ahead_eq_append hOne with
          ⟨middle, hMiddle⟩
        rw [← hMiddle] at hAhead hOne
        have hRun :
            (character accept).run c = some (a, middle) :=
          run_character_eq_some.mpr
            ⟨hAccept a (by simp), hAhead⟩
        refine .cons hRun ?_
          (ih (fun b hb => hAccept b (by simp [hb])) hMiddle)
        rw [Cursor.position_eq_add_length hOne]
        exact Nat.lt_succ_self _

theorem run_repeated_character_eq_some
    {accept : Char → Bool}
    {as : List Char} :
    (character accept).repeated.run c = some (as, r) ↔
      ((∀ a ∈ as, accept a = true) ∧ c.ahead = as ++ r.ahead) ∧
        NotNext accept r.ahead := by
  rw [run_repeated_eq_some, chain_character_iff,
    stuck_character_iff]

theorem run_repeated1_character_eq_some
    {accept : Char → Bool}
    {as : List Char} :
    (character accept).repeated1.run c = some (as, r) ↔
      (((∀ a ∈ as, accept a = true) ∧
          c.ahead = as ++ r.ahead) ∧
        NotNext accept r.ahead) ∧ as ≠ [] := by
  rw [run_repeated1_eq_some, chain_character_iff,
    stuck_character_iff]

instance
    {accept : Char → Bool} :
    Forward (character accept) where
  le hRun := by
    have hAhead := (run_character_eq_some.mp hRun).2
    rw [Cursor.position_of_ahead_eq_cons hAhead]
    exact Nat.le_succ _

instance
    {expected : Char} :
    Forward (char expected) :=
  inferInstanceAs (Forward (character _))

instance
    {set : String} :
    Forward (oneOf set) :=
  inferInstanceAs (Forward (character set.toList.contains))

instance
    {p : Parser (List Char)}
    [Forward p] :
    Forward p.textOf :=
  inferInstanceAs (Forward (String.ofList <$> p))

------------------------------------------------------------
-- Fixed Texts
------------------------------------------------------------

theorem run_literal_eq_some
    {expected s : String} :
    (literal expected).run c = some (s, r) ↔
      expected = s ∧ c.ahead = expected.toList ++ r.ahead := by
  change (c.skip? expected.toList).map
    (fun rest => (expected, rest)) = _ ↔ _
  rw [Option.map_eq_some_iff, ← Cursor.skip?_eq_some_iff]
  constructor
  · rintro ⟨rest, hSkip, hEq⟩
    cases hEq
    exact ⟨rfl, hSkip⟩
  · rintro ⟨rfl, hSkip⟩
    exact ⟨r, hSkip, rfl⟩

/- What begins with a text reads nothing where it is not next. -/
theorem run_eq_none_of_isPrefixOf
    {α : Type}
    {p : Parser α}
    {cs : List Char}
    (hBegins : ∀ a r, p.run c = some (a, r) →
      ∃ rest, c.ahead = cs ++ rest)
    (hPrefix : cs.isPrefixOf c.ahead = false) :
    p.run c = none := by
  apply run_eq_none
  intro a r hRun
  rcases hBegins a r hRun with ⟨rest, hAhead⟩
  have hTrue : cs.isPrefixOf c.ahead = true := by
    rw [List.isPrefixOf_iff_prefix, hAhead]
    exact List.prefix_append ..
  rw [hPrefix] at hTrue
  cases hTrue

theorem run_literal_eq_none
    {expected : String}
    (hPrefix : expected.toList.isPrefixOf c.ahead = false) :
    (literal expected).run c = none := by
  apply run_eq_none_of_isPrefixOf _ hPrefix
  intro s r hRun
  exact ⟨r.ahead, (run_literal_eq_some.mp hRun).2⟩

/- A parser that reads the given text wherever it is next. -/
structure ReadsText
    {α : Type}
    (p : Parser α)
    (cs : List Char) : Prop where
  run_iff
    {prose : Prose}
    {c r : Cursor prose} :
    (∃ a, p.run c = some (a, r)) ↔ c.ahead = cs ++ r.ahead

theorem readsText_char (a : Char) : ReadsText (char a) [a] := by
  constructor
  intro prose c r
  simp only [run_char_eq_some, List.singleton_append]
  constructor
  · rintro ⟨b, rfl, hAhead⟩
    exact hAhead
  · intro hAhead
    exact ⟨a, rfl, hAhead⟩

theorem readsText_literal (expected : String) :
    ReadsText (literal expected) expected.toList := by
  constructor
  intro prose c r
  simp only [run_literal_eq_some]
  constructor
  · rintro ⟨s, -, hAhead⟩
    exact hAhead
  · intro hAhead
    exact ⟨expected, rfl, hAhead⟩

/- An optional text is read, or it is not next. -/
theorem ReadsText.run_optional_iff
    {α : Type}
    {p : Parser α}
    {cs : List Char}
    (hReads : ReadsText p cs) :
    (∃ a?, p.optional.run c = some (a?, r)) ↔
      c.ahead = cs ++ r.ahead ∨
        cs.isPrefixOf c.ahead = false ∧ c = r := by
  constructor
  · rintro ⟨a?, hRun⟩
    rcases run_optional_eq_some.mp hRun with
      ⟨a, hFound, -⟩ | ⟨hNone, -, hSame⟩
    · exact Or.inl (hReads.run_iff.mp ⟨a, hFound⟩)
    · refine Or.inr ⟨?_, hSame⟩
      cases hPrefix : cs.isPrefixOf c.ahead with
      | false => rfl
      | true =>
          rcases List.isPrefixOf_iff_prefix.mp hPrefix with
            ⟨rest, hRest⟩
          rcases Cursor.exists_of_ahead_eq_append hRest.symm
            with ⟨m, rfl⟩
          rcases hReads.run_iff.mpr hRest.symm with ⟨a, hFound⟩
          rw [hNone] at hFound
          cases hFound
  · rintro (hAhead | ⟨hPrefix, rfl⟩)
    · rcases hReads.run_iff.mpr hAhead with ⟨a, hFound⟩
      exact
        ⟨some a, run_optional_eq_some.mpr
          (Or.inl ⟨a, hFound, rfl⟩)⟩
    · have hNone : p.run c = none := by
        apply run_eq_none_of_isPrefixOf _ hPrefix
        intro a r hRun
        exact ⟨r.ahead, hReads.run_iff.mp ⟨a, hRun⟩⟩
      exact
        ⟨none, run_optional_eq_some.mpr
          (Or.inr ⟨hNone, rfl, rfl⟩)⟩

instance
    {expected : String} :
    Forward (literal expected) where
  le hRun := by
    have hAhead := (run_literal_eq_some.mp hRun).2
    exact Cursor.position_le_of_ahead_eq hAhead

------------------------------------------------------------
-- Numbers
------------------------------------------------------------

/- Digits that stand for a number of 32 bits. -/
structure Numeral
    (digits : List Char)
    (n : UInt32) : Prop where
  ne_nil : digits ≠ []
  isDigit : ∀ a ∈ digits, a.isDigit = true
  value : Text.unsigned32? (String.ofList digits) = some n

/- A number is read from all its digits. -/
theorem run_number_eq_some
    {n : UInt32} :
    number.run c = some (n, r) ↔
      ∃ digits, Numeral digits n ∧
        c.ahead = digits ++ r.ahead ∧
        NotNext Char.isDigit r.ahead := by
  rw [number, toNumber, run_filterMap_eq_some]
  simp only [textOf, run_map_eq_some, digit,
    run_repeated1_character_eq_some]
  constructor
  · rintro
      ⟨_, ⟨digits, ⟨⟨⟨hDigit, hAhead⟩, hNext⟩, hNe⟩, rfl⟩,
        hValue⟩
    exact ⟨digits, ⟨hNe, hDigit, hValue⟩, hAhead, hNext⟩
  · rintro ⟨digits, ⟨hNe, hDigit, hValue⟩, hAhead, hNext⟩
    exact
      ⟨_, ⟨digits, ⟨⟨⟨hDigit, hAhead⟩, hNext⟩, hNe⟩, rfl⟩,
        hValue⟩

/- No number is read where no digit is next. -/
theorem run_number_eq_none
    (hNext : NotNext Char.isDigit c.ahead) :
    number.run c = none := by
  apply run_eq_none
  intro n r hRun
  rcases run_number_eq_some.mp hRun with
    ⟨digits, hDigits, hAhead, -⟩
  rcases List.exists_cons_of_ne_nil hDigits.ne_nil with
    ⟨a, rest, rfl⟩
  rw [hAhead, List.cons_append, notNext_cons,
    hDigits.isDigit a (by simp)] at hNext
  cases hNext

instance : Forward number where
  le hRun := by
    rcases run_number_eq_some.mp hRun with
      ⟨digits, -, hAhead, -⟩
    exact Cursor.position_le_of_ahead_eq hAhead

------------------------------------------------------------
-- Words and Blanks
------------------------------------------------------------

/- A text of at least one character of a kind. -/
theorem exists_of_run_repeated1_textOf
    {accept : Char → Bool}
    {s : String}
    (hRun :
      (character accept).repeated1.textOf.run c =
        some (s, r)) :
    ∃ as, as ≠ [] ∧ (∀ a ∈ as, accept a = true) ∧
      s.toList = as ∧ c.ahead = as ++ r.ahead := by
  rcases run_map_eq_some.mp hRun with ⟨as, hChars, rfl⟩
  rcases run_repeated1_character_eq_some.mp hChars with
    ⟨⟨⟨hAccept, hAhead⟩, -⟩, hNe⟩
  exact ⟨as, hNe, hAccept, String.toList_ofList, hAhead⟩

theorem eq_of_run_wordStart
    {u : Unit}
    (hRun : wordStart.run c = some (u, r)) :
    c = r := by
  unfold wordStart at hRun
  dsimp only at hRun
  split at hRun
  · cases hRun
  · cases hRun
    rfl

theorem eq_of_run_wordEnd
    {u : Unit}
    (hRun : wordEnd.run c = some (u, r)) :
    c = r := by
  unfold wordEnd at hRun
  dsimp only at hRun
  split at hRun
  · cases hRun
  · cases hRun
    rfl

/- A whole word is read where it stands. -/
theorem ahead_of_run_wholeWord
    {expected s : String}
    (hRun : (wholeWord expected).run c = some (s, r)) :
    expected = s ∧ c.ahead = expected.toList ++ r.ahead := by
  rcases run_seqLeft_eq_some.mp hRun with
    ⟨n, hWord, _, hEnd⟩
  rcases run_seqRight_eq_some.mp hWord with
    ⟨_, m, hStart, hText⟩
  rw [← eq_of_run_wordStart hStart, eq_of_run_wordEnd hEnd,
    run_literal_eq_some] at hText
  exact hText

instance : Forward wordStart where
  le hRun :=
    Nat.le_of_eq
      (congrArg Cursor.position (eq_of_run_wordStart hRun))

instance : Forward wordEnd where
  le hRun :=
    Nat.le_of_eq
      (congrArg Cursor.position (eq_of_run_wordEnd hRun))

instance : Forward word :=
  inferInstanceAs (Forward (Parser.textOf (repeated1 _)))

instance : Forward spaces :=
  inferInstanceAs (Forward (Parser.textOf (repeated1 _)))

instance : Forward blanks :=
  inferInstanceAs (Forward (Parser.textOf (repeated1 _)))

instance : Forward bracketed :=
  inferInstanceAs (Forward
    (char '(' *> (character (· != ')')).repeated.textOf
      <* char ')'))

end CreatureProse.Parser
