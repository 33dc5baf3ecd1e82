import CreatureProse.Action.EffectGrammar
import CreatureProse.Proofs.Creature.Names
import CreatureProse.Proofs.Parser.Alphabet

/-
  The text of a damage clause: what stands in it, how it begins
  and ends, and where else inside it no clause begins.

  Main declarations:
    * `DamageClause`
    * `DamageClause.eq_of_number`
    * `DamageClause.eq_of_run`
    * `DamageClause.firm`
    * `DamageClause.le_of_fence`
-/

namespace CreatureProse

open CreatureProse.Parser Clause

------------------------------------------------------------
-- Parts of a Damage Clause
------------------------------------------------------------

variable {prose : Prose} {c m n r x y : Cursor prose} {d : Damage}

/- Any character but a digit. -/
def notDigit (a : Char) : Bool :=
  !a.isDigit

/- Any character but a full stop and a comma. -/
def goesOn (a : Char) : Bool :=
  a != '.' && a != ','

/- The characters of a roll. -/
def rollChar (a : Char) : Bool :=
  a.isDigit || a == 'd' || a == ' ' || a == '+' || a == '-'

theorem readsOnly_roll :
    ReadsOnly rollChar DiceExpression.parser := by
  have hNumber : ReadsOnly rollChar number := by
    apply readsOnly_number
    intro a ha
    rw [rollChar, ha]
    rfl
  have hSpaces : ReadsOnly rollChar (oneOf " ").repeated :=
    (readsOnly_oneOf (by decide)).repeated
  have hTerm : ReadsOnly rollChar DiceExpression.termParser :=
    ((hNumber.seqLeft (readsOnly_char (by decide))).map.seq
      hNumber).orElse hNumber.filterMap
  have hOperator :
      ReadsOnly rollChar DiceExpression.operatorParser :=
    (hSpaces.seqRight
      ((readsOnly_char (by decide)).as.orElse
        (readsOnly_char (by decide)).as)).seqLeft hSpaces
  have hSign : ReadsOnly rollChar sign :=
    (readsOnly_char (by decide)).as.orElse
      (readsOnly_char (by decide)).as
  exact
    (hTerm.map.seq (hOperator.map.seq hTerm).repeated).orElse
      (hSign.map.seq hNumber).filterMap.map

/- A damage is its average, a roll, a type and the last word. -/
theorem exists_of_run_damage
    (hRun : Damage.parser.run c = some (d, r)) :
    ∃ m n k alternative,
      number.run c = some (d.average, m) ∧
        Damage.diceParser.optional.run m = some (d.dice, n) ∧
        (blanks *> damageTypeName).run n =
          some (d.damageType, k) ∧
        (Damage.alternativeParser.optional
          <* blanks <* literal "damage").run k =
            some (alternative, r) := by
  rw [Damage.parser] at hRun
  rcases run_seq_eq_some.mp hRun with
    ⟨_, k, hThree, alternative, hAlternative, rfl⟩
  rcases run_seq_eq_some.mp hThree with
    ⟨_, n, hTwo, damageType, hType, rfl⟩
  rcases run_seq_eq_some.mp hTwo with
    ⟨_, m, hOne, dice, hDice, rfl⟩
  rcases run_map_eq_some.mp hOne with ⟨average, hAverage, rfl⟩
  exact ⟨m, n, k, alternative, hAverage, hDice, hType,
    hAlternative⟩

/- No digit is read as part of a word for a type of damage. -/
theorem readsOnly_damageTypeName :
    ReadsOnly notDigit damageTypeName := by
  constructor
  intro prose c r t hRun
  rcases run_filterMap_eq_some.mp hRun with ⟨s, hWord, hName⟩
  rcases exists_of_run_repeated1_textOf hWord with
    ⟨read, -, -, hRead, hAhead⟩
  refine ⟨read, hAhead, ?_⟩
  intro a ha
  rw [← hRead] at ha
  rw [notDigit, DamageType.isDigit_of_ofName? hName a ha]
  rfl

theorem readsOnly_ending :
    ReadsOnly notDigit
      (Damage.alternativeParser.optional
        <* blanks <* literal "damage") := by
  have hBlanks : ReadsOnly notDigit blanks :=
    readsOnly_blanks (by decide)
  have hAlternative :
      ReadsOnly notDigit Damage.alternativeParser :=
    ((hBlanks.seqRight
      (readsOnly_wholeWord (by decide))).seqRight
        hBlanks).seqRight readsOnly_damageTypeName
  exact (hAlternative.optional.seqLeft hBlanks).seqLeft
    (readsOnly_literal (by decide))

/- A digit is neither a full stop nor a comma. -/
theorem goesOn_of_isDigit
    {a : Char}
    (hDigit : a.isDigit = true) :
    goesOn a = true := by
  rw [goesOn, Bool.and_eq_true, bne_iff_ne, bne_iff_ne]
  exact
    ⟨Text.ne_of_isDigit hDigit (by decide),
      Text.ne_of_isDigit hDigit (by decide)⟩

theorem goesOn_diceParser :
    ReadsOnly goesOn Damage.diceParser := by
  have hRoll : ReadsOnly goesOn DiceExpression.parser := by
    constructor
    intro prose c r e hRun
    rcases readsOnly_roll.of_run hRun with ⟨read, hAhead, hAll⟩
    refine ⟨read, hAhead, ?_⟩
    intro a ha
    have hA := hAll a ha
    simp only [rollChar, Bool.or_eq_true, beq_iff_eq] at hA
    rcases hA with (((hA | rfl) | rfl) | rfl) | rfl
    · exact goesOn_of_isDigit hA
    · decide
    · decide
    · decide
    · decide
  exact
    (((readsOnly_blanks (by decide)).seqRight
      (readsOnly_char (by decide))).seqRight hRoll).seqLeft
        (readsOnly_char (by decide))

theorem goesOn_damageTypeName :
    ReadsOnly goesOn damageTypeName := by
  apply ReadsOnly.filterMap
  apply ReadsOnly.map
  apply ReadsOnly.repeated1
  apply readsOnly_character
  intro a ha
  rw [goesOn, Bool.and_eq_true, bne_iff_ne, bne_iff_ne]
  constructor
  · rintro rfl
    revert ha
    decide
  · rintro rfl
    revert ha
    decide

theorem goesOn_alternativeParser :
    ReadsOnly goesOn Damage.alternativeParser := by
  have hBlanks : ReadsOnly goesOn blanks :=
    readsOnly_blanks (by decide)
  exact
    ((hBlanks.seqRight
      (readsOnly_wholeWord (by decide))).seqRight
        hBlanks).seqRight goesOn_damageTypeName

------------------------------------------------------------
-- Where Damage Begins
------------------------------------------------------------

/- A damage clause, which does not begin inside a number. -/
structure DamageClause
    {prose : Prose}
    (x y : Cursor prose)
    (d : Damage) : Prop where
  run : Damage.parser.run x = some (d, y)
  isolated : ∀ a ∈ x.previous?, a.isDigit = false

theorem exists_digit_of_run_damage
    (hRun : Damage.parser.run x = some (d, y)) :
    ∃ a rest, x.ahead = a :: rest ∧ a.isDigit = true := by
  rcases exists_of_run_damage hRun with
    ⟨m, n, k, alternative, hNumber, -⟩
  rcases run_number_eq_some.mp hNumber with
    ⟨digits, hDigits, hAhead, -⟩
  rcases List.exists_cons_of_ne_nil hDigits.ne_nil with
    ⟨a, more, rfl⟩
  exact ⟨a, _, hAhead, hDigits.isDigit a (by simp)⟩

/- None begins inside a text without digits. -/
theorem DamageClause.le_of_forall_notDigit
    {read : List Char}
    (hClause : DamageClause x y d)
    (hAhead : c.ahead = read ++ r.ahead)
    (hNone : ∀ a ∈ read, notDigit a = true)
    (hFirst : c.position ≤ x.position) :
    r.position ≤ x.position := by
  rcases exists_digit_of_run_damage hClause.run with
    ⟨a, rest, hNext, hDigit⟩
  apply Nat.le_of_not_lt
  intro hLt
  have hMem := Cursor.mem_of_position_lt hAhead hNext hFirst hLt
  have hNot := hNone a hMem
  rw [notDigit, hDigit] at hNot
  cases hNot

/- One that begins inside a number begins where that does. -/
theorem DamageClause.eq_of_number
    {average : UInt32}
    (hClause : DamageClause x y d)
    (hNumber : number.run c = some (average, m))
    (hFirst : c.position ≤ x.position)
    (hLast : x.position < m.position) :
    c = x := by
  rcases run_number_eq_some.mp hNumber with
    ⟨digits, hDigits, hAhead, -⟩
  apply Cursor.eq_of_position_eq
  apply Nat.le_antisymm hFirst
  apply Nat.le_of_not_lt
  intro hLater
  -- The character right behind `x` would be one of the digits.
  have hLe := x.position_le
  let b : Cursor prose := ⟨x.position - 1, by omega⟩
  have hBefore : b.position + 1 = x.position := by
    change x.position - 1 + 1 = x.position
    omega
  rcases Cursor.exists_ahead_eq_append
      (show b.position ≤ x.position by omega) with
    ⟨behind, hBehind⟩
  have hLength := Cursor.position_eq_add_length hBehind
  have hOne : behind.length = 1 := by omega
  rcases List.length_eq_one_iff.mp hOne with ⟨a, rfl⟩
  have hMem :=
    Cursor.mem_of_position_lt hAhead hBehind
      (show c.position ≤ b.position by omega) (by omega)
  have hPrevious := Cursor.previous?_eq_some hBehind
  have hIsolated := hClause.isolated a (by rw [hPrevious]; rfl)
  rw [hDigits.isDigit a hMem] at hIsolated
  cases hIsolated

------------------------------------------------------------
-- Numbers That Are No Damage
------------------------------------------------------------

/-
  A number is no damage where neither a bracket nor a type of
  damage follows it.
-/
theorem run_damage_eq_none_of_number
    {average : UInt32}
    (hNumber : number.run x = some (average, m))
    (hNoRoll : ∀ s v, blanks.run m = some (s, v) →
      (char '(').run v = none)
    (hNoType : ∀ s v, blanks.run m = some (s, v) →
      damageTypeName.run v = none) :
    Damage.parser.run x = none := by
  apply run_eq_none
  intro d y hRun
  rcases exists_of_run_damage hRun with
    ⟨u, n, k, alternative, hAverage, hDice, hType, -⟩
  rw [hNumber] at hAverage
  cases hAverage
  rcases run_optional_eq_some.mp hDice with
    ⟨e, hFound, -⟩ | ⟨-, -, rfl⟩
  · rw [Damage.diceParser] at hFound
    simp only [run_seqLeft_eq_some, run_seqRight_eq_some]
      at hFound
    rcases hFound with ⟨_, ⟨_, _, ⟨s, v, hBlanks, hOpen⟩, -⟩, -⟩
    rw [hNoRoll s v hBlanks] at hOpen
    cases hOpen
  · rcases run_seqRight_eq_some.mp hType with
      ⟨s, v, hBlanks, hName⟩
    rw [hNoType s v hBlanks] at hName
    cases hName

/- No bracket opens where a text begins otherwise. -/
theorem run_open_eq_none
    {a : Char}
    {rest : List Char}
    (hNext : c.ahead = a :: rest)
    (hOther : a ≠ '(') :
    (char '(').run c = none := by
  apply run_eq_none
  intro b r hRun
  rcases run_char_eq_some.mp hRun with ⟨rfl, hOpen⟩
  rw [hNext, List.cons.injEq] at hOpen
  exact hOther hOpen.1

/- What is read of a text ends before another character. -/
theorem exists_of_append_cons_eq_append
    {inner rest read tail : List Char}
    {b : Char}
    (hEq : inner ++ b :: rest = read ++ tail)
    (hNot : b ∉ read) :
    ∃ more, inner = read ++ more ∧ tail = more ++ b :: rest := by
  rcases List.append_eq_append_iff.mp hEq with
    ⟨more, hRead, hRest⟩ | ⟨more, hInner, hTail⟩
  · cases more with
    | nil =>
        rw [List.append_nil] at hRead
        rw [List.nil_append] at hRest
        exact ⟨[], by rw [hRead, List.append_nil], hRest.symm⟩
    | cons a more =>
        rw [List.cons_append, List.cons.injEq] at hRest
        rw [hRead, hRest.1] at hNot
        simp at hNot
  · exact ⟨more, hInner, hTail⟩

------------------------------------------------------------
-- Numbers Inside a Roll
------------------------------------------------------------

section Roll

variable
  {inner rest : List Char}
  (hAhead : c.ahead = inner ++ ')' :: rest)
  (hRoll : ∀ a ∈ inner, rollChar a = true)

include hAhead hRoll

/- Blanks inside a roll leave the end of the roll. -/
theorem exists_roll_of_run_blanks
    {s : String}
    (hBlanks : blanks.run c = some (s, r)) :
    ∃ more, r.ahead = more ++ ')' :: rest ∧
      ∀ a ∈ more, rollChar a = true := by
  rcases exists_of_run_repeated1_textOf hBlanks with
    ⟨read, -, hRead, -, hAfter⟩
  rw [hAhead] at hAfter
  rcases exists_of_append_cons_eq_append hAfter
      (fun hMem => absurd (hRead _ hMem) (by decide)) with
    ⟨more, rfl, hMore⟩
  exact ⟨more, hMore,
    fun a ha => hRoll a (List.mem_append_right _ ha)⟩

theorem run_open_eq_none_of_roll :
    (char '(').run c = none := by
  cases inner with
  | nil => exact run_open_eq_none hAhead (by decide)
  | cons a inner =>
      apply run_open_eq_none hAhead
      rintro rfl
      exact absurd (hRoll '(' (by simp)) (by decide)

/- The only letter of a roll is the mark of a pool. -/
theorem run_typeName_eq_none_of_roll :
    damageTypeName.run c = none := by
  apply run_eq_none
  intro t r hRun
  rcases run_filterMap_eq_some.mp hRun with ⟨s, hWord, hName⟩
  rcases exists_of_run_repeated1_textOf hWord with
    ⟨read, -, hLetters, hRead, hAfter⟩
  rw [hAhead] at hAfter
  rcases exists_of_append_cons_eq_append hAfter
      (fun hMem => absurd (hLetters _ hMem) (by decide)) with
    ⟨more, rfl, -⟩
  have hNone : DamageType.ofName? s = none := by
    apply DamageType.ofName?_of_forall_eq_d
    intro a ha
    have hDigit := DamageType.isDigit_of_ofName? hName a ha
    rw [hRead] at ha
    have hLetter := hLetters a ha
    have hA := hRoll a (List.mem_append_left _ ha)
    simp only [rollChar, Bool.or_eq_true, beq_iff_eq] at hA
    rcases hA with (((hA | hA) | rfl) | rfl) | rfl
    · rw [hDigit] at hA
      cases hA
    · exact hA
    · exact absurd hLetter (by decide)
    · exact absurd hLetter (by decide)
    · exact absurd hLetter (by decide)
  rw [hNone] at hName
  cases hName

/- No damage begins inside a roll that a bracket closes. -/
theorem run_damage_eq_none_of_roll :
    Damage.parser.run c = none := by
  cases hNumber : number.run c with
  | none =>
      apply run_eq_none
      intro d y hRun
      rcases exists_of_run_damage hRun with
        ⟨m, n, k, alternative, hAverage, -⟩
      rw [hNumber] at hAverage
      cases hAverage
  | some reply =>
      rcases run_number_eq_some.mp hNumber with
        ⟨digits, hDigits, hAfter, -⟩
      rw [hAhead] at hAfter
      have hNoBracket : ')' ∉ digits := by
        intro hMem
        exact absurd (hDigits.isDigit _ hMem) (by decide)
      rcases exists_of_append_cons_eq_append hAfter hNoBracket
        with ⟨more, rfl, hMore⟩
      have hMoreRoll : ∀ a ∈ more, rollChar a = true :=
        fun a ha => hRoll a (List.mem_append_right _ ha)
      apply run_damage_eq_none_of_number hNumber
      · intro s v hBlanks
        rcases exists_roll_of_run_blanks hMore hMoreRoll hBlanks
          with ⟨left, hLeft, hLeftRoll⟩
        exact run_open_eq_none_of_roll hLeft hLeftRoll
      · intro s v hBlanks
        rcases exists_roll_of_run_blanks hMore hMoreRoll hBlanks
          with ⟨left, hLeft, hLeftRoll⟩
        exact run_typeName_eq_none_of_roll hLeft hLeftRoll

end Roll

------------------------------------------------------------
-- Damage Inside Damage
------------------------------------------------------------

/- None begins inside the roll of another. -/
theorem DamageClause.le_of_dice
    {e : DiceExpression}
    (hClause : DamageClause x y d)
    (hDice : Damage.diceParser.run m = some (e, n))
    (hFirst : m.position ≤ x.position) :
    n.position ≤ x.position := by
  rw [Damage.diceParser] at hDice
  simp only [run_seqLeft_eq_some, run_seqRight_eq_some] at hDice
  rcases hDice with
    ⟨v, ⟨_, u, ⟨s, w, hBlanks, hOpen⟩, hRoll⟩, _, hClose⟩
  have hOpening :
      ReadsOnly notDigit (blanks *> char '(') :=
    (readsOnly_blanks (by decide)).seqRight
      (readsOnly_char (by decide))
  rcases hOpening.of_run
      (run_seqRight_eq_some.mpr ⟨s, w, hBlanks, hOpen⟩) with
    ⟨opening, hM, hNoDigit⟩
  have hFrom :=
    hClause.le_of_forall_notDigit hM hNoDigit hFirst
  rcases readsOnly_roll.of_run hRoll with
    ⟨inner, hInner, hAll⟩
  have hBracket := (run_char_eq_some.mp hClose).2
  rw [(run_char_eq_some.mp hClose).1] at hBracket
  have hBeyond : v.position ≤ x.position := by
    apply Nat.le_of_not_lt
    intro hLt
    rcases Cursor.exists_suffix_of_position_lt hInner hFrom hLt
      with ⟨left, -, hSuffix, hLeft⟩
    have hNone : Damage.parser.run x = none := by
      apply run_damage_eq_none_of_roll
        (hLeft.trans (by rw [hBracket]))
      exact fun a ha => hAll a (hSuffix.mem ha)
    have hRun := hClause.run
    rw [hNone] at hRun
    cases hRun
  apply hClause.le_of_forall_notDigit
    (hBracket.trans (List.singleton_append ..).symm) _ hBeyond
  simp [notDigit]

/- One that begins inside another is that one. -/
theorem DamageClause.eq_of_run
    {other : Damage}
    (hClause : DamageClause x y d)
    (hRun : Damage.parser.run c = some (other, r))
    (hFirst : c.position ≤ x.position)
    (hLast : x.position < r.position) :
    d = other ∧ y = r := by
  rcases exists_of_run_damage hRun with
    ⟨m, n, k, alternative, hNumber, hDice, hType, hEnding⟩
  have hInside : x.position < m.position := by
    apply Nat.lt_of_not_le
    intro hLe
    have hDiceEnd : n.position ≤ x.position := by
      rcases run_optional_eq_some.mp hDice with
        ⟨e, hFound, -⟩ | ⟨-, -, rfl⟩
      · exact hClause.le_of_dice hFound hLe
      · exact hLe
    have hType' :
        ReadsOnly notDigit (blanks *> damageTypeName) :=
      (readsOnly_blanks (by decide)).seqRight
        readsOnly_damageTypeName
    rcases hType'.of_run hType with ⟨named, hNamed, hNone⟩
    rcases readsOnly_ending.of_run hEnding with
      ⟨ending, hEnd, hNoDigit⟩
    have hTypeEnd :=
      hClause.le_of_forall_notDigit hNamed hNone hDiceEnd
    have hClauseEnd :=
      hClause.le_of_forall_notDigit hEnd hNoDigit hTypeEnd
    omega
  rw [hClause.eq_of_number hNumber hFirst hInside] at hRun
  rw [hClause.run] at hRun
  cases hRun
  exact ⟨rfl, rfl⟩

------------------------------------------------------------
-- How the Text of a Damage Clause Begins and Ends
------------------------------------------------------------

/-
  A text from a digit to the last letter of a word, without a
  full stop or a comma.
-/
structure Firm (cs : List Char) : Prop where
  first : ∃ a rest, cs = a :: rest ∧ a.isDigit = true
  last : ∃ front, cs = front ++ ['e']
  goesOn : ∀ a ∈ cs, goesOn a = true

/-
  The text of a damage clause is firm: neither its parts have a
  full stop or a comma in them, and it ends with a fixed word.
-/
theorem DamageClause.exists_read
    (hClause : DamageClause x y d) :
    ∃ read, x.ahead = read ++ y.ahead ∧ Firm read := by
  rcases exists_of_run_damage hClause.run with
    ⟨m, n, k, alternative, hNumber, hDice, hType, hEnding⟩
  rcases run_seqLeft_eq_some.mp hEnding with
    ⟨u, hMiddle, s, hWord⟩
  have hLast : u.ahead = "damage".toList ++ y.ahead :=
    (run_literal_eq_some.mp hWord).2
  have hBlanks : ReadsOnly goesOn blanks :=
    readsOnly_blanks (by decide)
  rcases run_number_eq_some.mp hNumber with
    ⟨digits, hDigits, hX, -⟩
  rcases List.exists_cons_of_ne_nil hDigits.ne_nil with
    ⟨a, more, rfl⟩
  rcases goesOn_diceParser.optional.of_run hDice with
    ⟨dice, hM, hDiceGoesOn⟩
  rcases (hBlanks.seqRight goesOn_damageTypeName).of_run
      hType with ⟨type, hN, hTypeGoesOn⟩
  rcases (goesOn_alternativeParser.optional.seqLeft
      hBlanks).of_run hMiddle with ⟨other, hK, hOtherGoesOn⟩
  have hWhole :
      x.ahead =
        (a :: more ++ dice ++ type ++ other ++ "damage".toList) ++
          y.ahead := by
    rw [hX, hM, hN, hK, hLast]
    simp only [List.append_assoc]
  refine ⟨_, hWhole, ?_, ?_, ?_⟩
  · exact ⟨a, _, rfl, hDigits.isDigit a (by simp)⟩
  · exact ⟨a :: more ++ dice ++ type ++ other ++ "damag".toList, by
      rw [List.append_assoc _ "damag".toList]
      rfl⟩
  · intro b hb
    simp only [List.mem_append] at hb
    rcases hb with (((hb | hb) | hb) | hb) | hb
    · exact goesOn_of_isDigit (hDigits.isDigit b hb)
    · exact hDiceGoesOn b hb
    · exact hTypeGoesOn b hb
    · exact hOtherGoesOn b hb
    · exact List.all_eq_true.mp (by decide) b hb

theorem DamageClause.lt
    (hClause : DamageClause x y d) :
    x.position < y.position := by
  rcases hClause.exists_read with ⟨read, hRead, hFirm⟩
  rcases hFirm.first with ⟨a, rest, rfl, -⟩
  rw [Cursor.position_eq_add_length hRead, List.length_cons]
  omega

/- The text of a damage clause is firm. -/
theorem DamageClause.firm
    (hClause : DamageClause x y d) :
    Firm (x.textUntil y).toList := by
  rcases hClause.exists_read with ⟨read, hRead, hFirm⟩
  rw [Cursor.textUntil_eq hRead, String.toList_ofList]
  exact hFirm

/-
  No damage clause goes across a full stop or a comma with what
  belongs to it, nor across blanks up to the end of the text.
-/
theorem DamageClause.le_of_fence
    {read : List Char}
    (hClause : DamageClause x y d)
    (hRead : m.ahead = read ++ n.ahead)
    (hOther : ∀ a ∈ read, a.isDigit = false ∧ a ≠ 'e')
    (hFence : (∃ a ∈ read, goesOn a = false) ∨ n.ahead = [])
    (hBegins : x.position < n.position) :
    y.position ≤ m.position := by
  rcases hClause.exists_read with ⟨text, hText, hFirm⟩
  apply Nat.le_of_not_lt
  intro hAcross
  have hBefore : x.position < m.position := by
    apply Nat.lt_of_not_le
    intro hInside
    rcases hFirm.first with ⟨a, rest, rfl, hDigit⟩
    rw [List.cons_append] at hText
    have hMem :=
      Cursor.mem_of_position_lt hRead hText hInside hBegins
    rw [(hOther a hMem).1] at hDigit
    cases hDigit
  rcases hFirm.last with ⟨front, rfl⟩
  rw [List.append_assoc] at hText
  rcases Cursor.exists_of_ahead_eq_append hText with ⟨z, hZ⟩
  have hLast := Cursor.position_eq_add_length hZ
  rw [List.length_singleton] at hLast
  have hBeyond : n.position ≤ z.position := by
    apply Nat.le_of_not_lt
    intro hInside
    have hMem :=
      Cursor.mem_of_position_lt hRead hZ (by omega) hInside
    exact (hOther 'e' hMem).2 rfl
  rcases hFence with ⟨a, ha, hStop⟩ | hEnd
  · have hLe : m.position ≤ n.position := by
      rw [Cursor.position_eq_add_length hRead]
      exact Nat.le_add_right ..
    have hInfix :=
      Cursor.textUntil_infix (Nat.le_of_lt hBefore) hLe
        (show n.position ≤ y.position by omega)
    rw [Cursor.textUntil_eq hRead, String.toList_ofList]
      at hInfix
    have hMem := hInfix.subset ha
    rw [hClause.firm.goesOn a hMem] at hStop
    cases hStop
  · rw [← Cursor.eq_stop_iff] at hEnd
    have hLe := y.position_le
    rw [hEnd] at hBeyond
    change prose.size ≤ z.position at hBeyond
    omega

end CreatureProse
