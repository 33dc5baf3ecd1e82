import CreatureProse.Proofs.Dice.Average
import CreatureProse.Proofs.Dice.Grammar
import CreatureProse.Proofs.Dice.Rolls

/-
  The average lies between the two bounds wherever the dice have
  sides, as it does so in each pool and adding and subtracting
  keep it there. For dice without sides the minimum is above the
  average, and such dice can be read: an expression whose average
  is not between its bounds was read from a text that has some.

  Main declarations:
    * `DiceExpression.Consistent`
    * `DiceExpression.consistent_pool_iff`
    * `DiceExpression.Sided.consistent`
    * `DiceExpression.SidelessDice`
    * `DiceExpression.consistent_or_sideless`
    * `DiceExpression.not_always_consistent`
-/

namespace CreatureProse.DiceExpression

open CreatureProse.Parser

variable {e t : DiceExpression}

------------------------------------------------------------
-- Consistent Totals
------------------------------------------------------------

/- The average lies between the minimum and the maximum. -/
def Consistent (e : DiceExpression) : Prop :=
  e.minimum ≤ e.average ∧ e.average ≤ e.maximum

instance
    (e : DiceExpression) :
    Decidable e.Consistent :=
  inferInstanceAs (Decidable (_ ∧ _))

/- The totals of dice without sides are in the wrong order. -/
theorem not_consistent_pool_zero
    {count : UInt32}
    (hCount : count ≠ 0) :
    ¬ (pool count 0).Consistent := by
  rintro ⟨hLow, -⟩
  have hPos : count.toNat ≠ 0 :=
    fun hZero => hCount (UInt32.toNat_inj.mp hZero)
  rw [average_pool, exactAverage, UInt32.toNat_zero] at hLow
  change (count.toNat : Int) ≤ _ at hLow
  omega

theorem Sided.consistent_pool
    {count sides : UInt32}
    (hSided : (pool count sides).Sided) :
    (pool count sides).Consistent := by
  rw [sided_pool_iff] at hSided
  have hLe : (count.toNat : Int) ≤ count.toNat * sides.toNat := by
    rw [← Int.natCast_mul, Int.ofNat_le]
    by_cases hCount : count = 0
    · rw [hCount]
      exact Nat.zero_le _
    · exact Nat.le_mul_of_pos_right _ (hSided hCount)
  have hLt := count.toNat_lt
  have hAverage := average_pool count sides
  rw [exactAverage, Int.mul_add, Int.mul_one] at hAverage
  rw [Consistent, hAverage, minimum, maximum, bounds]
  dsimp only
  generalize (count.toNat : Int) * sides.toNat = shown at hLe ⊢
  unfold Total.held greatestHalf Total.least Total.greatest
  omega

theorem consistent_pool_iff
    {count sides : UInt32} :
    (pool count sides).Consistent ↔ (pool count sides).Sided := by
  constructor
  · intro hConsistent hCount
    rintro rfl
    exact not_consistent_pool_zero hCount hConsistent
  · exact Sided.consistent_pool

theorem Sided.consistent
    (hSided : e.Sided) :
    e.Consistent := by
  induction e with
  | pool count sides => exact hSided.consistent_pool
  | constant n => exact ⟨Int.le_refl _, Int.le_refl _⟩
  | compound lhs op rhs ihLeft ihRight =>
      exact total_between (ihLeft hSided.1) op (ihRight hSided.2)

------------------------------------------------------------
-- Dice without Sides in a Text
------------------------------------------------------------

section Texts

variable {prose : Prose} {c k m r : Cursor prose}

/- Inside of a span dice without sides are written. -/
def SidelessDice
    (prose : Prose)
    (span : Span) : Prop :=
  ∃ (k m : Cursor prose) (count : UInt32),
    span.start ≤ k.position ∧ m.position ≤ span.stop ∧
      count ≠ 0 ∧ poolParser.run k = some (.pool count 0, m)

theorem sided_joinTerms
    {first : DiceExpression}
    {more : List (Operator × DiceExpression)}
    (hFirst : first.Sided)
    (hMore : ∀ x ∈ more, x.2.Sided) :
    (joinTerms first more).Sided :=
  joinTerms_of_forall (fun _ _ _ hLeft hRight => ⟨hLeft, hRight⟩)
    hFirst hMore

/- A modifier is a roll of a die with twenty sides. -/
theorem sided_check (n : Int32) :
    (check n).Sided := by
  unfold check
  split
  · exact ⟨fun _ => by decide, trivial⟩
  · exact ⟨fun _ => by decide, trivial⟩

theorem sided_of_run_termParser
    {span : Span}
    (hNone : ¬ SidelessDice prose span)
    (hTerm : termParser.run k = some (t, m))
    (hStart : span.start ≤ k.position)
    (hStop : m.position ≤ span.stop) :
    t.Sided := by
  rcases run_orElse_eq_some.mp hTerm with hPool | ⟨-, hConstant⟩
  · rcases run_poolParser_eq_some.mp hPool with
      ⟨count, sides, x, rfl, -⟩
    intro hCount
    rintro rfl
    exact hNone ⟨k, m, count, hStart, hStop, hCount, hPool⟩
  · rcases run_constantParser_eq_some.mp hConstant with
      ⟨n, -, -, rfl⟩
    trivial

theorem sided_of_chain
    {span : Span}
    {more : List (Operator × DiceExpression)}
    (hNone : ¬ SidelessDice prose span)
    (hChain : Chain moreParser m more r)
    (hStart : span.start ≤ m.position)
    (hStop : r.position ≤ span.stop) :
    ∀ x ∈ more, x.2.Sided := by
  induction hChain with
  | nil => exact List.forall_mem_nil _
  | cons hRun hMoves hMore ih =>
      rcases run_moreParser_eq_some.mp hRun with
        ⟨y, hOperator, hTerm⟩
      rcases run_operatorParser_eq_some.mp hOperator with
        ⟨joint, -, hAhead, -⟩
      have hFrom := Cursor.position_le_of_ahead_eq hAhead
      have hTo := hMore.le
      refine List.forall_mem_cons.mpr ⟨?_, ih (by omega) hStop⟩
      exact sided_of_run_termParser hNone hTerm (by omega) (by omega)

/- Where no dice without sides are written, none are read. -/
theorem sided_of_run
    (hNone : ¬ SidelessDice prose ⟨c.position, r.position⟩)
    (hRun : parser.run c = some (e, r)) :
    e.Sided := by
  rcases run_orElse_eq_some.mp hRun with hSum | ⟨-, hCheck⟩
  · rcases run_sumParser_eq_some.mp hSum with
      ⟨first, more, m, rfl, hFirst, hChain, -⟩
    rcases term_of_run hFirst with ⟨cs, -, hAhead⟩
    have hFrom := Cursor.position_le_of_ahead_eq hAhead
    exact sided_joinTerms
      (sided_of_run_termParser hNone hFirst (Nat.le_refl _) hChain.le)
      (sided_of_chain hNone hChain hFrom (Nat.le_refl _))
  · rcases run_map_eq_some.mp hCheck with ⟨n, -, rfl⟩
    exact sided_check n

theorem consistent_or_sideless_of_run
    (hRun : parser.run c = some (e, r)) :
    e.Consistent ∨
      ¬ e.Sided ∧
        SidelessDice prose ⟨c.position, r.position⟩ := by
  by_cases hSided : e.Sided
  · exact Or.inl hSided.consistent
  · refine Or.inr ⟨hSided, ?_⟩
    by_contra hNone
    exact hSided (sided_of_run hNone hRun)

end Texts

/-
  What is read from a text has its average between its bounds,
  unless it has dice without sides, as its text then has too. A
  pool alone has its average there only if its dice have sides.
-/
theorem consistent_or_sideless (prose : Prose) :
    (∀ (c r : Cursor prose) (e : DiceExpression),
        parser.run c = some (e, r) →
          e.Consistent ∨
            ¬ e.Sided ∧
              SidelessDice prose ⟨c.position, r.position⟩) ∧
      (∀ a ∈ allIn prose,
        a.value.Consistent ∨
          ¬ a.value.Sided ∧ SidelessDice prose a.span) ∧
        ∀ count sides,
          (pool count sides).Consistent ↔
            (pool count sides).Sided := by
  refine ⟨fun c r e => consistent_or_sideless_of_run, ?_,
    fun count sides => consistent_pool_iff⟩
  intro a ha
  rcases readAt_of_mem_allIn ha with ⟨c, r, hRun, hSpan⟩
  rw [hSpan]
  exact consistent_or_sideless_of_run (run_filter_eq_some.mp hRun).1

/- Dice that are added and subtracted, all of them with sides. -/
def mixedRoll : DiceExpression :=
  joinTerms (.pool 2 6) [(.subtract, .pool 1 4), (.add, .constant 3)]

theorem consistent_or_sideless_mixedRoll :
    let prose := Prose.ofString "2d6 - 1d4 + 3"
    parser.run (Cursor.start prose) =
        some (mixedRoll, Cursor.stop prose) ∧
      mixedRoll.Sided ∧ mixedRoll.Consistent := by
  have hRun :
      parser.run (Cursor.start (Prose.ofString "2d6 - 1d4 + 3")) =
        some (mixedRoll, Cursor.stop _) := by
    decide +kernel
  have hSided : mixedRoll.Sided :=
    ⟨⟨fun _ => by decide, fun _ => by decide⟩, trivial⟩
  refine ⟨hRun, hSided, ?_⟩
  rcases (consistent_or_sideless _).1 _ _ _ hRun with
    hConsistent | ⟨hNot, -⟩
  · exact hConsistent
  · exact absurd hSided hNot

/- Of a die without sides the minimum is above the maximum. -/
theorem not_always_consistent :
    ¬ ∀ (prose : Prose) (e : DiceExpression),
      parser.value? prose = some e → e.Consistent := by
  intro hAlways
  have hRead :
      parser.value? (Prose.ofString "1d0") = some (.pool 1 0) := by
    decide +kernel
  have hConsistent := hAlways _ _ hRead
  revert hConsistent
  decide

end CreatureProse.DiceExpression
