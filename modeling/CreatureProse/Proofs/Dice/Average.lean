import CreatureProse.Proofs.Dice.Bounds

/-
  The average of an expression in numbers of any size, and where
  the three totals of 64 bits are the exact ones. The least and
  the greatest total are exact as long as the totals that they
  are made of can be held. This is not so for the average. The
  average of a pool can always be held, but it is halved after
  it was held and so stops at half of the greatest number.

  Main declarations:
    * `DiceExpression.exactAverage`
    * `DiceExpression.average_pool`
    * `DiceExpression.exact_where_held`
    * `DiceExpression.not_average_exact`
-/

namespace CreatureProse

/- The total of two sides, however large it is. -/
def Operator.exactTotal
    (op : Operator)
    (lhs rhs : Int) : Int :=
  match op with
  | .add => lhs + rhs
  | .subtract => lhs - rhs

theorem Operator.total_eq
    (op : Operator)
    (lhs rhs : Int) :
    op.total lhs rhs = Total.held (op.exactTotal lhs rhs) := by
  cases op with
  | add => rfl
  | subtract => rfl

namespace DiceExpression

variable {e : DiceExpression}

------------------------------------------------------------
-- Exact Minimum and Maximum
------------------------------------------------------------

mutual

/-
  The exact least total can be held, and so can the totals that
  it is made of: of a right side that is subtracted, the greatest
  total.
-/
def LeastFits : DiceExpression → Prop
| .compound lhs op rhs =>
  lhs.LeastFits ∧
    (match op with
      | .add => rhs.LeastFits
      | .subtract => rhs.GreatestFits) ∧
      Total.Fits (compound lhs op rhs).exactBounds.1
| e => Total.Fits e.exactBounds.1

/- The same for the exact greatest total. -/
def GreatestFits : DiceExpression → Prop
| .compound lhs op rhs =>
  lhs.GreatestFits ∧
    (match op with
      | .add => rhs.GreatestFits
      | .subtract => rhs.LeastFits) ∧
      Total.Fits (compound lhs op rhs).exactBounds.2
| e => Total.Fits e.exactBounds.2

end

/- Each of the two bounds is exact on its own. -/
theorem bounds_exact (e : DiceExpression) :
    (e.LeastFits → e.minimum = e.exactBounds.1) ∧
      (e.GreatestFits → e.maximum = e.exactBounds.2) := by
  induction e with
  | pool count sides =>
      rw [minimum, maximum, bounds_pool]
      exact ⟨Total.Fits.held_eq, Total.Fits.held_eq⟩
  | constant n => exact ⟨fun _ => rfl, fun _ => rfl⟩
  | compound lhs op rhs ihLeft ihRight =>
      rw [minimum, maximum, bounds_compound]
      cases op with
      | add =>
          constructor
          · rintro ⟨hLeft, hRight, hFits⟩
            change Total.held (lhs.minimum + rhs.minimum) = _
            rw [ihLeft.1 hLeft, ihRight.1 hRight]
            exact hFits.held_eq
          · rintro ⟨hLeft, hRight, hFits⟩
            change Total.held (lhs.maximum + rhs.maximum) = _
            rw [ihLeft.2 hLeft, ihRight.2 hRight]
            exact hFits.held_eq
      | subtract =>
          constructor
          · rintro ⟨hLeft, hRight, hFits⟩
            change Total.held (lhs.minimum + -rhs.maximum) = _
            rw [ihLeft.1 hLeft, ihRight.2 hRight]
            exact hFits.held_eq
          · rintro ⟨hLeft, hRight, hFits⟩
            change Total.held (lhs.maximum + -rhs.minimum) = _
            rw [ihLeft.2 hLeft, ihRight.1 hRight]
            exact hFits.held_eq

------------------------------------------------------------
-- Exact Averages
------------------------------------------------------------

/- The total when every pool comes to its average, rounded down. -/
def exactAverage : DiceExpression → Int
| .pool count sides => count.toNat * (sides.toNat + 1) / 2
| .constant n => n.toInt
| .compound lhs op rhs =>
  op.exactTotal lhs.exactAverage rhs.exactAverage

/- The exact averages of all parts can be held. -/
def AverageFits : DiceExpression → Prop
| .compound lhs op rhs =>
  lhs.AverageFits ∧ rhs.AverageFits ∧
    Total.Fits (compound lhs op rhs).exactAverage
| e => Total.Fits e.exactAverage

/- The greatest average of a pool that is not cut. -/
def greatestHalf : Int :=
  Total.greatest / 2

/- The exact average of no pool is above half of the greatest total. -/
def PoolsBelowHalf : DiceExpression → Prop
| .pool count sides =>
  (pool count sides).exactAverage ≤ greatestHalf
| .constant _ => True
| .compound lhs _ rhs => lhs.PoolsBelowHalf ∧ rhs.PoolsBelowHalf

/- What is halved to the average of a pool fits into 64 bits. -/
theorem doubled_lt (count sides : UInt32) :
    count.toNat * (sides.toNat + 1) < 0x10000000000000000 := by
  have hSides : sides.toNat + 1 ≤ 0x100000000 := sides.toNat_lt
  calc
    count.toNat * (sides.toNat + 1)
      ≤ count.toNat * 0x100000000 := Nat.mul_le_mul_left _ hSides
    _ < 0x100000000 * 0x100000000 :=
      Nat.mul_lt_mul_of_pos_right count.toNat_lt (by decide)

/- The exact average of a pool as half of a natural number. -/
theorem exactAverage_pool (count sides : UInt32) :
    (pool count sides).exactAverage =
      (count.toNat * (sides.toNat + 1) : Nat) / 2 :=
  rfl

/- The exact average of a pool can always be held. -/
theorem fits_exactAverage_pool (count sides : UInt32) :
    Total.Fits (pool count sides).exactAverage := by
  have hLt := doubled_lt count sides
  rw [exactAverage_pool]
  unfold Total.Fits Total.least Total.greatest
  omega

/- The average of a pool is exact up to half of the greatest total. -/
theorem average_pool (count sides : UInt32) :
    (pool count sides).average =
      min (pool count sides).exactAverage greatestHalf := by
  rw [exactAverage_pool]
  change
    (Total.held (count.toNat * (sides.toNat + 1) : Nat)).tdiv 2 = _
  generalize count.toNat * (sides.toNat + 1) = doubled
  have hNonneg : 0 ≤ Total.held doubled := by
    unfold Total.held Total.least Total.greatest
    omega
  rw [Int.tdiv_eq_ediv_of_nonneg hNonneg]
  unfold Total.held greatestHalf Total.least Total.greatest
  omega

theorem average_exact
    (hFits : e.AverageFits)
    (hPools : e.PoolsBelowHalf) :
    e.average = e.exactAverage := by
  induction e with
  | pool count sides => rw [average_pool, Int.min_eq_left hPools]
  | constant n => rfl
  | compound lhs op rhs ihLeft ihRight =>
      rw [average, ihLeft hFits.1 hPools.1,
        ihRight hFits.2.1 hPools.2, Operator.total_eq]
      exact hFits.2.2.held_eq

/-
  The minimum and the maximum are exact if the totals they are
  made of can be held, and so is the average if no pool is cut.
  The average of a pool can always be held; it is cut if and only
  if it is above half of the greatest total.
-/
theorem exact_where_held (e : DiceExpression) :
    (e.LeastFits → e.minimum = e.exactBounds.1) ∧
      (e.GreatestFits → e.maximum = e.exactBounds.2) ∧
        (e.AverageFits → e.PoolsBelowHalf →
          e.average = e.exactAverage) ∧
          ∀ count sides,
            Total.Fits (pool count sides).exactAverage ∧
              (pool count sides).average =
                min (pool count sides).exactAverage
                  greatestHalf :=
  ⟨(bounds_exact e).1, (bounds_exact e).2, average_exact,
    fun count sides =>
      ⟨fits_exactAverage_pool count sides,
        average_pool count sides⟩⟩

/- The largest dice whose average is not cut, less five. -/
def largeRoll : DiceExpression :=
  pool 4294967295 2147483647 - .constant 5

theorem exact_where_held_largeRoll :
    (largeRoll.LeastFits ∧ largeRoll.minimum = 4294967290) ∧
      (largeRoll.GreatestFits ∧
        largeRoll.maximum = 9223372030412324860) ∧
        (largeRoll.AverageFits ∧ largeRoll.PoolsBelowHalf) ∧
          largeRoll.average = 4611686017353646075 := by
  have hPool :
      FitBounds (pool 4294967295 2147483647).exactBounds := by
    decide
  have hConstant := fitBounds_constant 5
  have hLeast : largeRoll.LeastFits :=
    ⟨hPool.1, hConstant.2, by decide⟩
  have hGreatest : largeRoll.GreatestFits :=
    ⟨hPool.2, hConstant.1, by decide⟩
  have hAverage : largeRoll.AverageFits :=
    ⟨fits_exactAverage_pool _ _, hConstant.1, by decide⟩
  have hPools : largeRoll.PoolsBelowHalf := by
    refine ⟨?_, trivial⟩
    change (pool 4294967295 2147483647).exactAverage ≤ greatestHalf
    decide
  rcases exact_where_held largeRoll with
    ⟨hMinimum, hMaximum, hExact, -⟩
  rw [hMinimum hLeast, hMaximum hGreatest, hExact hAverage hPools]
  exact
    ⟨⟨hLeast, by decide⟩, ⟨hGreatest, by decide⟩,
      ⟨hAverage, hPools⟩, by decide⟩

/- The average of the largest pool can be held, but it is cut. -/
theorem not_average_exact :
    ¬ ∀ e : DiceExpression, e.AverageFits →
      e.average = e.exactAverage := by
  intro hAlways
  have hExact := hAlways (pool 4294967295 4294967295)
    (fits_exactAverage_pool _ _)
  revert hExact
  decide

end DiceExpression

end CreatureProse
