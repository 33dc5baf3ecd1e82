import CreatureProse.Proofs.Action.Account

/-
  What becomes of damage in the pieces that clauses are made of:
  fixed texts, the ends of sentences, damage and saving throws.

  Main declarations:
    * `fence_sentenceEnd`
    * `fence_comma`
    * `accounts_restOfSentence`
    * `accounts_damageList`
    * `barren_savingThrow`
    * `DamageClause.le_of_margin`
-/

namespace CreatureProse

open CreatureProse.Parser Clause

------------------------------------------------------------
-- Fixed Texts
------------------------------------------------------------

theorem barren_blanks : Barren blanks :=
  barren_of_notDigit (readsOnly_blanks (by decide))

section Fixed

variable {s : String} (hNone : s.toList.all notDigit = true)

include hNone

theorem barren_literal : Barren (literal s) :=
  barren_of_notDigit (readsOnly_literal hNone)

theorem barren_phrase : Barren (phrase s) :=
  barren_of_notDigit
    ((readsOnly_literal hNone).padded
      (readsOnly_blanks (by decide)))

theorem barren_spacedWord : Barren (spacedWord s) :=
  barren_of_notDigit
    ((readsOnly_wholeWord hNone).padded
      (readsOnly_blanks (by decide)))

end Fixed

/- The first of several texts. -/
theorem notDigit_firstOf_literal
    {texts : List String}
    (hNone : ∀ s ∈ texts, s.toList.all notDigit = true) :
    ReadsOnly notDigit (firstOf (texts.map literal)) := by
  apply ReadsOnly.firstOf
  intro p hp
  rcases List.mem_map.mp hp with ⟨s, hs, rfl⟩
  exact readsOnly_literal (hNone s hs)

theorem barren_char
    {a : Char}
    (hNone : notDigit a = true) :
    Barren (char a) :=
  barren_of_notDigit (readsOnly_char hNone)

/- Separators that are read between blanks have no digits. -/
theorem notDigit_separators
    {marks : List (Parser String)}
    (hAll : ∀ p ∈ marks, ReadsOnly notDigit p) :
    ReadsOnly notDigit (separators marks) :=
  ((ReadsOnly.firstOf hAll).padded
    (readsOnly_blanks (by decide))).repeated1.as

------------------------------------------------------------
-- Ends of Sentences and Commas
------------------------------------------------------------

/- Any character but a digit and the last letter of a clause. -/
def fenceChar (a : Char) : Bool :=
  !a.isDigit && a != 'e'

/-
  A full stop, a comma, or the end of the text, with the blanks
  around it.
-/
theorem fence_padded
    {α : Type}
    {p : Parser α}
    (hReads : ReadsOnly fenceChar p)
    (hEnds : ∀ {prose : Prose} {u v : Cursor prose} {a : α},
      p.run u = some (a, v) →
        (∃ b, goesOn b = false ∧ u.ahead = b :: v.ahead) ∨
          u.ahead = []) :
    Fence (p.padded blanks) := by
  have hBlanks : ReadsOnly fenceChar blanks :=
    readsOnly_blanks (by decide)
  constructor
  intro prose m n x y a d hRun hClause hBegins
  rcases (hReads.padded hBlanks).of_run hRun with
    ⟨read, hRead, hAll⟩
  have hOther : ∀ b ∈ read, b.isDigit = false ∧ b ≠ 'e' := by
    intro b hb
    have hB := hAll b hb
    rw [fenceChar, Bool.and_eq_true, Bool.not_eq_true',
      bne_iff_ne] at hB
    exact hB
  apply hClause.le_of_fence hRead hOther _ hBegins
  rcases run_seqLeft_eq_some.mp hRun with ⟨v, hMiddle, s, hAfter⟩
  rcases run_seqRight_eq_some.mp hMiddle with
    ⟨t, u, hBefore, hOne⟩
  have hFront := hBlanks.optional.le hBefore
  have hBack := hBlanks.optional.le hAfter
  rcases hEnds hOne with ⟨b, hStop, hNext⟩ | hEnd
  · have hStep := Cursor.position_of_ahead_eq_cons hNext
    exact Or.inl
      ⟨b, Cursor.mem_of_position_lt hRead hNext hFront
        (by omega), hStop⟩
  · right
    rw [← Cursor.eq_stop_iff] at hEnd ⊢
    have hLe := hReads.le hOne
    have hLast := n.position_le
    rw [hEnd] at hLe
    change prose.size ≤ v.position at hLe
    apply Cursor.eq_of_position_eq
    change n.position = prose.size
    omega

theorem fence_sentenceEnd : Fence sentenceEnd := by
  apply fence_padded
    ((readsOnly_literal (by decide)).as.orElse readsOnly_atEnd)
  intro prose u v a hRun
  rcases run_orElse_eq_some.mp hRun with hStop | ⟨-, hEnd⟩
  · rcases (run_as_eq_some.mp hStop).1 with ⟨s, hText⟩
    exact Or.inl
      ⟨'.', by decide, (run_literal_eq_some.mp hText).2⟩
  · right
    have hAt := (run_atEnd_eq_some.mp hEnd).1
    rw [← Cursor.eq_stop_iff]
    apply Cursor.eq_of_position_eq
    exact beq_iff_eq.mp hAt

theorem fence_comma : Fence (phrase ",") := by
  apply fence_padded (readsOnly_literal (by decide))
  intro prose u v a hRun
  exact Or.inl
    ⟨',', by decide, (run_literal_eq_some.mp hRun).2⟩

/- The text of a sentence is kept as a whole. -/
theorem accounts_sentence :
    Accounts sentence (fun kept _ text => Occurs text kept)
      .nowhere :=
  fence_sentenceEnd.accounts_seek

theorem accounts_restOfSentence :
    Accounts restOfSentence
      (fun kept _ text => Occurs text kept) .nowhere := by
  apply accounts_sentence.filterMap
  intro whole kept d text hFirm hSome hOccurs
  rcases hFirm.exists_nonBlank? hOccurs with ⟨s, hEq, hKept⟩
  rw [hSome] at hEq
  cases hEq
  exact hKept

/- All that is left is kept as it is. -/
theorem accounts_rest :
    Accounts rest (fun kept _ text => Occurs text kept)
      .nowhere := by
  constructor
  intro prose c r x y s d hRun hClause hFirst hLast
  rw [← (run_rest_eq_some.mp hRun).1]
  exact Or.inl
    (Cursor.textUntil_infix_rest hFirst
      (Nat.le_of_lt hClause.lt))

------------------------------------------------------------
-- Damage and Saving Throws
------------------------------------------------------------

theorem accounts_damage :
    Accounts Damage.parser (fun kept d _ => d = kept)
      .nowhere := by
  constructor
  intro prose c r x y kept d hRun hClause hFirst hLast
  exact Or.inl (hClause.eq_of_run hRun hFirst hLast).1

theorem notDigit_damageSeparators :
    ReadsOnly notDigit
      (separators
        [literal ",", wholeWord "and", wholeWord "plus"]) := by
  apply notDigit_separators
  simp only [List.forall_mem_cons]
  exact
    ⟨readsOnly_literal (by decide),
      readsOnly_wholeWord (by decide),
      readsOnly_wholeWord (by decide), by simp⟩

theorem accounts_damageList :
    Accounts Damage.listParser (fun kept d _ => d ∈ kept)
      .nowhere := by
  have hForward := notDigit_damageSeparators.forward
  have hList :=
    (accounts_damage.separated
      (barren_of_notDigit notDigit_damageSeparators)).filter
        fun damage => !damage.isEmpty
  rw [Gap.listed_nowhere] at hList
  apply hList.imp
  rintro kept d text ⟨a, ha, rfl⟩
  exact ha

/-
  No damage clause begins inside a number that neither a bracket
  nor a type of damage follows.
-/
theorem DamageClause.le_of_number
    {prose : Prose}
    {c m x y : Cursor prose}
    {d : Damage}
    {n : UInt32}
    (hClause : DamageClause x y d)
    (hNumber : number.run c = some (n, m))
    (hNoRoll : ∀ s v, blanks.run m = some (s, v) →
      (char '(').run v = none)
    (hNoType : ∀ s v, blanks.run m = some (s, v) →
      damageTypeName.run v = none)
    (hFirst : c.position ≤ x.position) :
    m.position ≤ x.position := by
  apply Nat.le_of_not_lt
  intro hLt
  rw [hClause.eq_of_number hNumber hFirst hLt] at hNumber
  have hRun := hClause.run
  rw [run_damage_eq_none_of_number hNumber hNoRoll hNoType]
    at hRun
  cases hRun

/- The number of a save is followed by an ability. -/
theorem barren_savingThrow : Barren SavingThrow.parser := by
  constructor
  intro prose c r x y save d hRun hClause hFirst
  rw [SavingThrow.parser] at hRun
  rcases run_seq_eq_some.mp hRun with
    ⟨_, v, hNumbered, ability, hEnding, -⟩
  rcases run_map_eq_some.mp hNumbered with ⟨n, hDc, -⟩
  rcases run_seqLeft_eq_some.mp hDc with ⟨m, hStart, s, hBlanks⟩
  rcases run_seqRight_eq_some.mp hStart with
    ⟨t, u, hLabel, hNumber⟩
  rcases run_seqLeft_eq_some.mp hEnding with
    ⟨w, hNamed, last, hLast⟩
  rcases run_seqLeft_eq_some.mp hNamed with
    ⟨k, hName, gap, hGap⟩
  rcases run_filterMap_eq_some.mp hName with
    ⟨name, hWord, hAbility⟩
  rcases exists_of_run_repeated1_textOf hWord with
    ⟨read, hSome, hLetters, hRead, hAhead⟩
  have hFromNumber :=
    (barren_literal (by decide)).le hLabel hClause hFirst
  have hPastNumber : m.position ≤ x.position := by
    apply hClause.le_of_number hNumber _ _ hFromNumber
    · intro s' v' hOther
      rw [hBlanks] at hOther
      cases hOther
      rcases List.exists_cons_of_ne_nil hSome with
        ⟨a, more, rfl⟩
      apply run_open_eq_none hAhead
      rintro rfl
      exact absurd (hLetters '(' (by simp)) (by decide)
    · intro s' v' hOther
      rw [hBlanks] at hOther
      cases hOther
      apply run_eq_none
      intro type r' hType
      rcases run_filterMap_eq_some.mp hType with
        ⟨other, hSame, hOf⟩
      rw [hWord] at hSame
      cases hSame
      rw [DamageType.ofName?_of_ability hAbility] at hOf
      cases hOf
  have hPastBlanks := barren_blanks.le hBlanks hClause hPastNumber
  have hPastName : k.position ≤ x.position := by
    apply hClause.le_of_forall_notDigit hAhead _ hPastBlanks
    intro a ha
    rw [← hRead] at ha
    rw [notDigit, Ability.isDigit_of_ofName? hAbility a ha]
    rfl
  have hPastGap := barren_blanks.le hGap hClause hPastName
  exact (barren_literal (by decide)).le hLast hClause hPastGap

/- The number of a margin is followed by other words. -/
theorem DamageClause.le_of_margin
    {prose : Prose}
    {c m k x y : Cursor prose}
    {d : Damage}
    {n : UInt32}
    {s : String}
    (hClause : DamageClause x y d)
    (hNumber : number.run c = some (n, m))
    (hPhrase : (phrase "or more").run m = some (s, k))
    (hFirst : c.position ≤ x.position) :
    m.position ≤ x.position := by
  have hFollows :
      ∀ s v, blanks.run m = some (s, v) →
        ∃ rest, v.ahead = 'o' :: 'r' :: ' ' :: rest := by
    intro s v hBlanks
    rcases run_seqLeft_eq_some.mp hPhrase with ⟨w, hMore, -⟩
    rcases run_seqRight_eq_some.mp hMore with
      ⟨s?, u, hOptional, hText⟩
    rw [run_optional, hBlanks] at hOptional
    cases hOptional
    exact ⟨_, (run_literal_eq_some.mp hText).2⟩
  apply hClause.le_of_number hNumber _ _ hFirst
  · intro s v hBlanks
    rcases hFollows s v hBlanks with ⟨rest, hNext⟩
    exact run_open_eq_none hNext (by decide)
  · intro s v hBlanks
    rcases hFollows s v hBlanks with ⟨rest, hNext⟩
    apply run_eq_none
    intro type r hType
    rcases run_filterMap_eq_some.mp hType with
      ⟨name, hWord, hOf⟩
    rcases exists_of_run_repeated1_textOf hWord with
      ⟨read, hSome, hLetters, hRead, hAhead⟩
    rw [hNext] at hAhead
    have hInner :
        ['o', 'r'] ++ ' ' :: rest = read ++ r.ahead := hAhead
    rcases exists_of_append_cons_eq_append hInner
        (fun hMem => absurd (hLetters _ hMem) (by decide)) with
      ⟨more, hOr, -⟩
    -- The word is the conjunction at most, which is no type.
    have hName : name = "o" ∨ name = "or" := by
      rw [← hRead] at hOr hSome
      rcases List.prefix_cons_iff.mp ⟨more, hOr.symm⟩ with
        hNil | ⟨tail, hTail, hPrefix⟩
      · exact absurd hNil hSome
      · rcases List.prefix_cons_iff.mp hPrefix with
          rfl | ⟨last, rfl, hEnd⟩
        · exact Or.inl (String.toList_inj.mp hTail)
        · rw [List.prefix_nil.mp hEnd] at hTail
          exact Or.inr (String.toList_inj.mp hTail)
    have hNone : DamageType.ofName? name = none := by
      rcases hName with hOne | hTwo
      · rw [hOne]
        decide
      · rw [hTwo]
        decide
    rw [hNone] at hOf
    cases hOf

end CreatureProse
