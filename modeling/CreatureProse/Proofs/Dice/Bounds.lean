import CreatureProse.Dice.Expression
import Mathlib.Algebra.Group.Prod

/-
  The bounds of an expression in numbers of any size. The totals
  of 64 bits are the same where each of them can be held. Where
  nothing is subtracted they stop at the last number once the
  exact bound is past it.

  Main declarations:
    * `DiceExpression.exactBounds`
    * `DiceExpression.total_between`
    * `DiceExpression.Fits`
    * `DiceExpression.Adds`
    * `DiceExpression.bounds_of_steady`
-/

namespace CreatureProse

------------------------------------------------------------
-- Totals That Can Be Held
------------------------------------------------------------

namespace Total

/- Whether a total is one of those that can be held. -/
def Fits (n : Int) : Prop :=
  least ≤ n ∧ n ≤ greatest

instance
    (n : Int) :
    Decidable (Fits n) :=
  inferInstanceAs (Decidable (_ ∧ _))

theorem Fits.held_eq
    {n : Int}
    (hFits : Fits n) :
    held n = n := by
  rcases hFits with ⟨hLeast, hGreatest⟩
  rw [held, Int.min_eq_left hGreatest, Int.max_eq_right hLeast]

/- Holding keeps the order of totals. -/
theorem held_mono
    {m n : Int}
    (hLe : m ≤ n) :
    held m ≤ held n := by
  unfold held
  omega

/- What is added to a total that stopped is past the bound too. -/
theorem held_held_add
    {m n : Int}
    (hFirst : 0 ≤ m)
    (hSecond : 0 ≤ n) :
    held (held m + held n) = held (m + n) := by
  unfold held least greatest
  omega

theorem fits_of_nonneg
    {n : Int}
    (hNonneg : 0 ≤ n)
    (hSmall : n < 0x100000000) :
    Fits n := by
  unfold Fits least greatest
  omega

end Total

/- Both bounds, as they are held. -/
def heldBounds (b : Int × Int) : Int × Int :=
  (Total.held b.1, Total.held b.2)

/- Whether both bounds can be held. -/
def FitBounds (b : Int × Int) : Prop :=
  Total.Fits b.1 ∧ Total.Fits b.2

instance
    (b : Int × Int) :
    Decidable (FitBounds b) :=
  inferInstanceAs (Decidable (_ ∧ _))

theorem FitBounds.heldBounds_eq
    {b : Int × Int}
    (hFit : FitBounds b) :
    heldBounds b = b := by
  rw [heldBounds, hFit.1.held_eq, hFit.2.held_eq]

/-
  What the right side adds to the bounds of the left side. Its
  greatest total lowers the least one if it is subtracted.
-/
def Operator.change
    (op : Operator)
    (b : Int × Int) : Int × Int :=
  match op with
  | .add => b
  | .subtract => (-b.2, -b.1)

namespace DiceExpression

variable {e : DiceExpression}

------------------------------------------------------------
-- Exact Bounds
------------------------------------------------------------

/- The least and the greatest total, however large they are. -/
def exactBounds : DiceExpression → Int × Int
| .pool count sides => (count.toNat, count.toNat * sides.toNat)
| .constant n => (n.toInt, n.toInt)
| .compound lhs op rhs =>
  lhs.exactBounds + op.change rhs.exactBounds

theorem bounds_compound
    (lhs : DiceExpression)
    (op : Operator)
    (rhs : DiceExpression) :
    (compound lhs op rhs).bounds =
      heldBounds (lhs.bounds + op.change rhs.bounds) := by
  cases op with
  | add => rfl
  | subtract =>
      simp [bounds, heldBounds, Operator.change, Int.sub_eq_add_neg]

/-
  The total of two numbers that lie between the bounds of the two
  sides lies between the bounds of the whole.
-/
theorem total_between
    {lhs rhs : DiceExpression}
    {m n : Int}
    (hLeft : lhs.minimum ≤ m ∧ m ≤ lhs.maximum)
    (op : Operator)
    (hRight : rhs.minimum ≤ n ∧ n ≤ rhs.maximum) :
    (compound lhs op rhs).minimum ≤ op.total m n ∧
      op.total m n ≤ (compound lhs op rhs).maximum := by
  cases op with
  | add =>
      exact
        ⟨Total.held_mono (Int.add_le_add hLeft.1 hRight.1),
          Total.held_mono (Int.add_le_add hLeft.2 hRight.2)⟩
  | subtract =>
      exact
        ⟨Total.held_mono (Int.sub_le_sub hLeft.1 hRight.2),
          Total.held_mono (Int.sub_le_sub hLeft.2 hRight.1)⟩

/- The bounds of a pool are held when they are made. -/
theorem bounds_pool (count sides : UInt32) :
    (pool count sides).bounds =
      heldBounds (pool count sides).exactBounds := by
  have hCount : Total.Fits count.toNat :=
    Total.fits_of_nonneg (Int.natCast_nonneg _)
      (Int.ofNat_lt.mpr count.toNat_lt)
  rw [heldBounds, exactBounds, hCount.held_eq]
  rfl

/- A number of 32 bits can be held. -/
theorem fitBounds_constant (n : Int32) :
    FitBounds (constant n).exactBounds := by
  have hLow := n.le_toInt
  have hHigh := n.toInt_lt
  unfold FitBounds Total.Fits Total.least Total.greatest
  dsimp only [exactBounds]
  omega

theorem bounds_constant (n : Int32) :
    (constant n).bounds = heldBounds (constant n).exactBounds := by
  rw [(fitBounds_constant n).heldBounds_eq]
  rfl

/- The exact bounds of all parts can be held. -/
def Fits : DiceExpression → Prop
| .compound lhs op rhs =>
  lhs.Fits ∧ rhs.Fits ∧
    FitBounds (lhs.exactBounds + op.change rhs.exactBounds)
| e => FitBounds e.exactBounds

theorem Fits.fitBounds
    (hFits : e.Fits) :
    FitBounds e.exactBounds := by
  cases e with
  | pool _ _ | constant _ => exact hFits
  | compound lhs op rhs => exact hFits.2.2

/- The bounds are exact if those of all parts can be held. -/
theorem Fits.bounds_eq
    (hFits : e.Fits) :
    e.bounds = e.exactBounds := by
  induction e with
  | pool count sides =>
      rw [bounds_pool, hFits.fitBounds.heldBounds_eq]
  | constant n => rfl
  | compound lhs op rhs ihLeft ihRight =>
      rw [bounds_compound, ihLeft hFits.1, ihRight hFits.2.1,
        hFits.2.2.heldBounds_eq, exactBounds]

------------------------------------------------------------
-- Sums Without Subtraction
------------------------------------------------------------

/- Pools and numbers that are not negative, all of them added. -/
def Adds : DiceExpression → Prop
| .pool _ _ => True
| .constant n => 0 ≤ n.toInt
| .compound lhs op rhs => lhs.Adds ∧ op = .add ∧ rhs.Adds

theorem Adds.exactBounds_nonneg
    (hAdds : e.Adds) :
    0 ≤ e.exactBounds.1 ∧ 0 ≤ e.exactBounds.2 := by
  induction e with
  | pool count sides =>
      exact ⟨Int.natCast_nonneg _,
        Int.mul_nonneg (Int.natCast_nonneg _) (Int.natCast_nonneg _)⟩
  | constant n => exact ⟨hAdds, hAdds⟩
  | compound lhs op rhs ihLeft ihRight =>
      rcases hAdds with ⟨hLeft, rfl, hRight⟩
      exact ⟨Int.add_nonneg (ihLeft hLeft).1 (ihRight hRight).1,
        Int.add_nonneg (ihLeft hLeft).2 (ihRight hRight).2⟩

/- A sum stops at the last number if its exact bound is past it. -/
theorem Adds.bounds_eq
    (hAdds : e.Adds) :
    e.bounds = heldBounds e.exactBounds := by
  induction e with
  | pool count sides => exact bounds_pool count sides
  | constant n => exact bounds_constant n
  | compound lhs op rhs ihLeft ihRight =>
      rcases hAdds with ⟨hLeft, rfl, hRight⟩
      have hLow := hLeft.exactBounds_nonneg
      have hHigh := hRight.exactBounds_nonneg
      rw [bounds_compound, ihLeft hLeft, ihRight hRight]
      exact Prod.ext (Total.held_held_add hLow.1 hHigh.1)
        (Total.held_held_add hLow.2 hHigh.2)

/- The bounds stop at the last number only in the end, if at all. -/
def Steady (e : DiceExpression) : Prop :=
  e.Fits ∨ e.Adds

theorem bounds_of_steady
    (hSteady : e.Steady) :
    e.bounds = heldBounds e.exactBounds := by
  rcases hSteady with hFits | hAdds
  · rw [hFits.bounds_eq, hFits.fitBounds.heldBounds_eq]
  · exact hAdds.bounds_eq

end DiceExpression

end CreatureProse
