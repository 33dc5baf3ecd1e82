import CreatureProse.Proofs.Dice.Grammar
import CreatureProse.Proofs.Parser.Takes

/-
  The text that an expression is shown as, and what is read from
  this text. As the text has no brackets, its terms are joined
  from the left when it is read, however they were joined in the
  expression. What was read before is joined from the left, and
  so it is read again from its own text.

  Main declarations:
    * `DiceExpression.Unsigned`
    * `DiceExpression.regrouped`
    * `DiceExpression.takes_expression`
    * `DiceExpression.exists_value?_iff`
    * `DiceExpression.parse?_text`
-/

namespace CreatureProse.DiceExpression

open CreatureProse.Parser

------------------------------------------------------------
-- The Terms of an Expression
------------------------------------------------------------

/- A pool, or a number that is not negative. -/
def IsTerm : DiceExpression → Prop
| .pool _ _ => True
| .constant n => 0 ≤ n.toInt
| .compound _ _ _ => False

/- No number in the expression is negative. -/
def Unsigned : DiceExpression → Prop
| .pool _ _ => True
| .constant n => 0 ≤ n.toInt
| .compound lhs _ rhs => lhs.Unsigned ∧ rhs.Unsigned

/- The first term of an expression. -/
def head : DiceExpression → DiceExpression
| .compound lhs _ _ => lhs.head
| e => e

/- The other terms, each with the operator in front of it. -/
def steps : DiceExpression → List (Operator × DiceExpression)
| .compound lhs op rhs => lhs.steps ++ (op, rhs.head) :: rhs.steps
| _ => []

/- The same terms in the same order, joined from the left. -/
def regrouped (e : DiceExpression) : DiceExpression :=
  joinTerms e.head e.steps

variable {e : DiceExpression}

theorem IsTerm.unsigned
    (hTerm : e.IsTerm) :
    e.Unsigned := by
  cases e with
  | pool count sides => trivial
  | constant n => exact hTerm
  | compound lhs op rhs => exact hTerm.elim

theorem IsTerm.head_eq
    (hTerm : e.IsTerm) :
    e.head = e := by
  cases e with
  | pool _ _ | constant _ => rfl
  | compound lhs op rhs => exact hTerm.elim

theorem IsTerm.steps_eq
    (hTerm : e.IsTerm) :
    e.steps = [] := by
  cases e with
  | pool _ _ | constant _ => rfl
  | compound lhs op rhs => exact hTerm.elim

/- The terms of an expression are pools and numbers. -/
theorem Unsigned.isTerm
    (hUnsigned : e.Unsigned) :
    e.head.IsTerm ∧ ∀ x ∈ e.steps, x.2.IsTerm := by
  induction e with
  | pool count sides => exact ⟨trivial, List.forall_mem_nil _⟩
  | constant n => exact ⟨hUnsigned, List.forall_mem_nil _⟩
  | compound lhs op rhs ihLeft ihRight =>
      rcases ihLeft hUnsigned.1 with ⟨hHead, hSteps⟩
      rcases ihRight hUnsigned.2 with ⟨hNext, hMore⟩
      refine ⟨hHead, ?_⟩
      exact List.forall_mem_append.mpr
        ⟨hSteps, List.forall_mem_cons.mpr ⟨hNext, hMore⟩⟩

------------------------------------------------------------
-- Joining Terms
------------------------------------------------------------

theorem head_joinTerms
    (e : DiceExpression)
    (more : List (Operator × DiceExpression)) :
    (joinTerms e more).head = e.head := by
  induction more generalizing e with
  | nil => rfl
  | cons x more ih => exact ih (.compound e x.1 x.2)

theorem steps_joinTerms
    (e : DiceExpression)
    {more : List (Operator × DiceExpression)}
    (hMore : ∀ x ∈ more, x.2.IsTerm) :
    (joinTerms e more).steps = e.steps ++ more := by
  induction more generalizing e with
  | nil => exact (List.append_nil e.steps).symm
  | cons x more ih =>
      rw [List.forall_mem_cons] at hMore
      change (joinTerms (.compound e x.1 x.2) more).steps = _
      rw [ih _ hMore.2, steps, hMore.1.head_eq, hMore.1.steps_eq,
        List.append_assoc, List.singleton_append]

/- Terms that are joined from the left are joined so again. -/
theorem regrouped_joinTerms
    {first : DiceExpression}
    {more : List (Operator × DiceExpression)}
    (hFirst : first.IsTerm)
    (hMore : ∀ x ∈ more, x.2.IsTerm) :
    (joinTerms first more).regrouped = joinTerms first more := by
  rw [regrouped, head_joinTerms, steps_joinTerms first hMore,
    hFirst.head_eq, hFirst.steps_eq, List.nil_append]

theorem unsigned_joinTerms
    {more : List (Operator × DiceExpression)}
    (hUnsigned : e.Unsigned)
    (hMore : ∀ x ∈ more, x.2.IsTerm) :
    (joinTerms e more).Unsigned :=
  joinTerms_of_forall
    (fun _ _ _ hLeft hTerm => ⟨hLeft, hTerm.unsigned⟩)
    hUnsigned hMore

/- The opposite of a penalty is never negative. -/
theorem bonusOf_nonneg
    {n : Int32}
    (hNeg : n < 0) :
    0 ≤ (bonusOf n).toInt := by
  unfold bonusOf
  by_cases hMin : n = Int32.minValue
  · rw [if_pos hMin]
    decide
  · have hLt : n.toInt < 0 := Int32.lt_iff_toInt_lt.mp hNeg
    have hLe := n.le_toInt
    have hOther : n.toInt ≠ -2 ^ 31 :=
      fun hSame => hMin (Int32.toInt_inj.mp hSame)
    rw [if_neg hMin, Int32.toInt_neg,
      Int.bmod_eq_of_le (by omega) (by omega)]
    omega

/- A modifier alone is the only term after a pool. -/
theorem exists_check_eq (n : Int32) :
    ∃ op m, IsTerm (.constant m) ∧
      check n = joinTerms (.pool 1 20) [(op, .constant m)] := by
  unfold check
  by_cases hNeg : n < 0
  · rw [if_pos hNeg]
    exact ⟨.subtract, bonusOf n, bonusOf_nonneg hNeg, rfl⟩
  · rw [if_neg hNeg]
    refine ⟨.add, n, ?_, rfl⟩
    rw [Int32.lt_iff_toInt_lt, Int.not_lt] at hNeg
    exact hNeg

------------------------------------------------------------
-- Reading the Text
------------------------------------------------------------

/- The text of a term with the operator in front of it. -/
def stepText (x : Operator × DiceExpression) : List Char :=
  [' ', symbolChar x.1, ' '] ++ x.2.text.toList

/- The text is that of the first term and of the others. -/
theorem toList_text (e : DiceExpression) :
    e.text.toList =
      e.head.text.toList ++ e.steps.flatMap stepText := by
  induction e with
  | pool count sides => simp [head, steps]
  | constant n => simp [head, steps]
  | compound lhs op rhs ihLeft ihRight =>
      have hSymbol : op.symbol.toList = [symbolChar op] := by
        cases op <;> rfl
      simp only [text, String.toList_append, ihLeft, ihRight,
        hSymbol]
      simp [head, steps, stepText]

/- A term is shown as it can be written. -/
theorem IsTerm.term_text
    (hTerm : e.IsTerm) :
    Term e.text.toList e := by
  cases e with
  | pool count sides =>
      have hText :
          (pool count sides).text.toList =
            (toString count.toNat).toList ++
              'd' :: (toString sides.toNat).toList := by
        simp [text]
      rw [hText]
      exact .pool (numeral_toString count) (numeral_toString sides)
  | constant n =>
      have hLt := n.toInt_lt
      rcases Int.eq_ofNat_of_zero_le hTerm with ⟨k, hValue⟩
      have hSmall : k < 0x80000000 := by omega
      have hSize : (UInt32.ofNat k).toNat = k :=
        UInt32.toNat_ofNat_of_lt'
          (Nat.lt_trans hSmall (by decide))
      have hText :
          (constant n).text = toString (UInt32.ofNat k).toNat := by
        rw [text, hValue, hSize]
        rfl
      have hWritten := Term.constant
        (numeral_toString (UInt32.ofNat k)) (hSize.symm ▸ hSmall)
      have hNumber :
          Int32.ofInt ((UInt32.ofNat k).toNat : Int) = n := by
        rw [hSize, ← hValue, Int32.ofInt_toInt]
      rwa [hNumber, ← hText] at hWritten
  | compound lhs op rhs => exact hTerm.elim

/- What could go on with an expression. -/
def goesOn (a : Char) : Bool :=
  endsTerm a || a == ' ' || a == '+' || a == '-'

theorem takes_termParser
    (hTerm : e.IsTerm) :
    Takes termParser e.text.toList (NotNext endsTerm) e :=
  ⟨run_of_term hTerm.term_text⟩

theorem takes_moreParser
    {x : Operator × DiceExpression}
    (hTerm : x.2.IsTerm) :
    Takes moreParser (stepText x) (NotNext endsTerm) x := by
  constructor
  intro prose c r hAhead hFollow
  rw [stepText, List.append_assoc] at hAhead
  rcases Cursor.exists_of_ahead_eq_append hAhead with ⟨m, hM⟩
  rw [← hM] at hAhead
  have hSpaces : ∀ a ∈ [' '], a = ' ' := by simp
  have hOperator : operatorParser.run c = some (x.1, m) := by
    refine run_operatorParser_eq_some.mpr
      ⟨_, .mk x.1 hSpaces hSpaces, hAhead, ?_⟩
    rw [hM]
    exact hTerm.term_text.notNext_space _
  exact run_moreParser_eq_some.mpr
    ⟨m, hOperator, (takes_termParser hTerm).run hM hFollow⟩

/- An operator has a space or its sign first. -/
theorem starts_moreParser : Starts goesOn moreParser := by
  constructor
  intro prose c r x hRun
  rcases run_moreParser_eq_some.mp hRun with ⟨m, hOperator, -⟩
  rcases run_operatorParser_eq_some.mp hOperator with
    ⟨joint, hJoint, hAhead, -⟩
  rcases hJoint with ⟨op, hBefore, -⟩
  rename_i before after
  cases before with
  | nil =>
      refine ⟨symbolChar x.1, after ++ m.ahead, hAhead, ?_⟩
      cases x.1 with
      | add => rfl
      | subtract => rfl
  | cons a more =>
      refine ⟨a, _, hAhead, ?_⟩
      rw [hBefore a (List.mem_cons_self ..)]
      rfl

/- A sum is read from its text with its terms joined anew. -/
theorem takes_sumParser
    (hUnsigned : e.Unsigned) :
    Takes sumParser e.text.toList (NotNext goesOn) e.regrouped := by
  rcases hUnsigned.isTerm with ⟨hHead, hSteps⟩
  have hPieces :
      ∀ x ∈ e.steps.map fun x => (stepText x, x),
        x.1 ≠ [] ∧ Takes moreParser x.1 (NotNext endsTerm) x.2 := by
    simp only [List.forall_mem_map]
    exact fun x hx =>
      ⟨List.cons_ne_nil _ _, takes_moreParser (hSteps x hx)⟩
  have hNext :
      ∀ x ∈ e.steps.map fun x => (stepText x, x),
        ∀ rest, NotNext endsTerm (x.1 ++ rest) := by
    simp only [List.forall_mem_map]
    exact fun x _ rest => notNext_cons.mpr (by decide)
  have hLast (rest : List Char) (hRest : NotNext goesOn rest) :
      NotNext endsTerm rest :=
    hRest.mono fun a ha => by
      rw [goesOn, ha]
      rfl
  have hMore := Takes.repeated hPieces hNext hLast
    fun hStop => starts_moreParser.run_eq_none hStop
  rw [List.flatMap_map, List.map_map] at hMore
  rw [toList_text]
  have hSum := ((takes_termParser hHead).map joinTerms).seq hMore
    (by
      intro rest hRest
      cases hMoreSteps : e.steps with
      | nil => exact hLast rest hRest
      | cons x more => exact notNext_cons.mpr (by decide))
  rw [Function.comp_def, List.map_id'] at hSum
  exact hSum

theorem takes_expression
    (hUnsigned : e.Unsigned) :
    Takes parser e.text.toList (NotNext goesOn) e.regrouped :=
  (takes_sumParser hUnsigned).orElse_left checkParser

/- What follows the text and does not go on with it is left. -/
theorem parse?_append
    (hUnsigned : e.Unsigned)
    (rest : String)
    (hRest : NotNext goesOn rest.toList) :
    parser.parse? (Prose.ofString (e.text ++ rest)) =
      some (e.regrouped, rest) := by
  have hAhead :
      (Cursor.start (Prose.ofString (e.text ++ rest))).ahead =
        e.text.toList ++ rest.toList := by
    rw [Cursor.ahead_start, Prose.ofString, String.toList_append]
  rcases Cursor.exists_of_ahead_eq_append hAhead with ⟨r, hR⟩
  rw [← hR] at hAhead hRest
  rw [parse?, (takes_expression hUnsigned).run hAhead hRest,
    Option.map_some]
  dsimp only
  rw [Cursor.rest_eq, hR, String.ofList_toList]

------------------------------------------------------------
-- What Was Read
------------------------------------------------------------

theorem Term.isTerm
    {cs : List Char}
    (hTerm : Term cs e) :
    e.IsTerm := by
  cases hTerm with
  | pool hCount hSides => trivial
  | constant hNumber hSmall =>
      rw [IsTerm, Int32.toInt_ofInt_of_le (by omega) (by omega)]
      exact Int.natCast_nonneg _

theorem Tail.isTerm
    {cs : List Char}
    {more : List (Operator × DiceExpression)}
    (hTail : Tail cs more) :
    ∀ x ∈ more, x.2.IsTerm := by
  induction hTail with
  | nil => exact List.forall_mem_nil _
  | cons hJoint hTerm hRest ih =>
      exact List.forall_mem_cons.mpr ⟨hTerm.isTerm, ih⟩

/- What is written is made of terms joined from the left. -/
theorem Written.exists_joinTerms
    {cs : List Char}
    (hWritten : Written cs e) :
    ∃ first more, e = joinTerms first more ∧ first.IsTerm ∧
      ∀ x ∈ more, x.2.IsTerm := by
  have hCheck (n : Int32) :
      ∃ first more, check n = joinTerms first more ∧
        first.IsTerm ∧ ∀ x ∈ more, x.2.IsTerm := by
    rcases exists_check_eq n with ⟨op, m, hTerm, hEq⟩
    exact ⟨_, _, hEq, trivial, List.forall_mem_singleton.mpr hTerm⟩
  cases hWritten with
  | sum hFirst hMore =>
      exact ⟨_, _, rfl, hFirst.isTerm, hMore.isTerm⟩
  | bonus hNumber hSmall => exact hCheck _
  | penalty hNumber hSmall => exact hCheck _

/-
  The expressions that can be read: those without negative
  numbers whose terms are joined from the left.
-/
theorem exists_value?_iff :
    (∃ prose, parser.value? prose = some e) ↔
      e.Unsigned ∧ e.regrouped = e := by
  constructor
  · rintro ⟨prose, hRead⟩
    rcases Option.map_eq_some_iff.mp hRead with
      ⟨⟨_, r⟩, hRun, rfl⟩
    rcases written_of_run hRun with ⟨cs, hWritten, -⟩
    rcases hWritten.exists_joinTerms with
      ⟨first, more, hEq, hFirst, hMore⟩
    dsimp only
    rw [hEq]
    exact ⟨unsigned_joinTerms hFirst.unsigned hMore,
      regrouped_joinTerms hFirst hMore⟩
  · rintro ⟨hUnsigned, hGrouped⟩
    have hParse := parse?_append hUnsigned "" (notNext_nil goesOn)
    rcases Option.map_eq_some_iff.mp hParse with
      ⟨⟨f, r⟩, hRun, hReply⟩
    have hSame : f = e :=
      (congrArg Prod.fst hReply).trans hGrouped
    refine ⟨Prose.ofString (e.text ++ ""), ?_⟩
    rw [value?, hRun, hSame]
    rfl

/-
  An expression that was read from a text is read again from the
  text that it is shown as, alone or in front of a bracket.
-/
theorem parse?_text
    {prose : Prose}
    (hRead : parser.value? prose = some e) :
    parser.parse? (Prose.ofString e.text) = some (e, "") ∧
      parser.parse? (Prose.ofString (e.text ++ ")")) =
        some (e, ")") := by
  rcases exists_value?_iff.mp ⟨prose, hRead⟩ with
    ⟨hUnsigned, hGrouped⟩
  have hAlone := parse?_append hUnsigned "" (notNext_nil goesOn)
  have hBracket := parse?_append hUnsigned ")"
    (notNext_cons.mpr (by decide))
  rw [hGrouped] at hAlone hBracket
  rw [String.append_empty] at hAlone
  exact ⟨hAlone, hBracket⟩

/- A roll in its own spelling. -/
def looseRoll : String :=
  "10d6-1d4  +007)"

theorem parse?_text_looseRoll :
    let e := joinTerms (.pool 10 6)
      [(.subtract, .pool 1 4), (.add, .constant 7)]
    parser.value? (Prose.ofString looseRoll) = some e ∧
      e.text = "10d6 - 1d4 + 7" ∧
        parser.parse? (Prose.ofString e.text) = some (e, "") ∧
          parser.parse? (Prose.ofString (e.text ++ ")")) =
            some (e, ")") := by
  have hRead :
      parser.value? (Prose.ofString looseRoll) =
        some (joinTerms (.pool 10 6)
          [(.subtract, .pool 1 4), (.add, .constant 7)]) := by
    decide +kernel
  exact ⟨hRead, by decide +kernel, parse?_text hRead⟩

end CreatureProse.DiceExpression
