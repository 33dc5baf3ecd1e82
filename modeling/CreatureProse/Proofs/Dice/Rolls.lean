import CreatureProse.Proofs.Dice.Bounds
import Mathlib.Algebra.Order.BigOperators.Group.List
import Mathlib.Algebra.Order.Ring.Nat

/-
  The rolls of an expression and their totals. Every total lies
  between the two bounds, as the steps of a total keep the order
  of the numbers that they are given, also where they stop at
  the last number. Both bounds are totals of rolls, since the
  two sides of an operator are rolled apart from each other.

  Main declarations:
    * `Roll`
    * `Roll.total`
    * `Roll.within`
    * `DiceExpression.nonempty_roll_iff`
    * `DiceExpression.extremes_rolled`
-/

namespace CreatureProse

open DiceExpression

------------------------------------------------------------
-- Rolls
------------------------------------------------------------

/- The faces that the dice of a pool show, one for each die. -/
structure Faces (count sides : UInt32) where
  shown : List Nat
  length_eq : shown.length = count.toNat
  shown_face : ∀ face ∈ shown, 1 ≤ face ∧ face ≤ sides.toNat

/- A roll of an expression: the faces of all its pools. -/
inductive Roll : DiceExpression → Type where
| pool
    {count sides : UInt32}
    (faces : Faces count sides) :
    Roll (.pool count sides)
| constant (n : Int32) : Roll (.constant n)
| compound
    {lhs rhs : DiceExpression}
    (left : Roll lhs)
    (op : Operator)
    (right : Roll rhs) :
    Roll (.compound lhs op rhs)

/-
  The total of a roll. What the dice of a pool show is held, and
  so is the total of every operator.
-/
def Roll.total : {e : DiceExpression} → Roll e → Int
| _, .pool faces => Total.held faces.shown.sum
| _, .constant n => n.toInt
| _, .compound left op right => op.total left.total right.total

namespace Faces

variable {count sides : UInt32}

theorem count_le_sum
    (faces : Faces count sides) :
    count.toNat ≤ faces.shown.sum := by
  rw [← faces.length_eq]
  exact List.length_le_sum_of_one_le _
    fun face hFace => (faces.shown_face face hFace).1

theorem sum_le
    (faces : Faces count sides) :
    faces.shown.sum ≤ count.toNat * sides.toNat := by
  have hSum := List.sum_le_card_nsmul _ _
    fun face hFace => (faces.shown_face face hFace).2
  rwa [faces.length_eq, nsmul_eq_mul, Nat.cast_id] at hSum

/- All dice of a pool show the same face. -/
def all
    (face : Nat)
    (hFace : count ≠ 0 → 1 ≤ face ∧ face ≤ sides.toNat) :
    Faces count sides where
  shown := List.replicate count.toNat face
  length_eq := List.length_replicate
  shown_face other hOther := by
    rcases List.mem_replicate.mp hOther with ⟨hCount, rfl⟩
    apply hFace
    rintro rfl
    exact hCount rfl

@[simp] theorem sum_all
    {face : Nat}
    {hFace : count ≠ 0 → 1 ≤ face ∧ face ≤ sides.toNat} :
    (Faces.all face hFace).shown.sum = count.toNat * face := by
  simp [all]

end Faces

------------------------------------------------------------
-- Between the Bounds
------------------------------------------------------------

namespace Roll

variable {e : DiceExpression}

/- No roll comes to less than the minimum or more than the maximum. -/
theorem within
    (roll : Roll e) :
    e.minimum ≤ roll.total ∧ roll.total ≤ e.maximum := by
  induction roll with
  | @pool count sides faces =>
      have hLow := Int.ofNat_le.mpr faces.count_le_sum
      have hHigh := Int.ofNat_le.mpr faces.sum_le
      rw [Int.natCast_mul] at hHigh
      rw [minimum, maximum, bounds_pool]
      exact ⟨Total.held_mono hLow, Total.held_mono hHigh⟩
  | constant n => exact ⟨Int.le_refl _, Int.le_refl _⟩
  | compound left op right ihLeft ihRight =>
      exact total_between ihLeft op ihRight

end Roll

------------------------------------------------------------
-- Reaching the Bounds
------------------------------------------------------------

namespace DiceExpression

variable {e : DiceExpression}

/- Every die that is rolled has a side to show. -/
def Sided : DiceExpression → Prop
| .pool count sides => count ≠ 0 → sides ≠ 0
| .constant _ => True
| .compound lhs _ rhs => lhs.Sided ∧ rhs.Sided

theorem sided_pool_iff
    {count sides : UInt32} :
    (pool count sides).Sided ↔ (count ≠ 0 → 1 ≤ sides.toNat) := by
  rw [Sided, Nat.one_le_iff_ne_zero, ne_eq sides, ← UInt32.toNat_inj,
    UInt32.toNat_zero]

/- Dice that all show one come to the least total. -/
theorem exists_roll_eq_minimum
    {count sides : UInt32}
    (hSided : (pool count sides).Sided) :
    ∃ roll : Roll (.pool count sides),
      roll.total = (pool count sides).minimum := by
  rw [sided_pool_iff] at hSided
  refine ⟨.pool (.all 1 fun hCount => ⟨Nat.le_refl 1, hSided hCount⟩), ?_⟩
  rw [Roll.total, Faces.sum_all, Nat.mul_one, minimum, bounds_pool]
  rfl

/- Dice that all show their last face come to the greatest one. -/
theorem exists_roll_eq_maximum
    {count sides : UInt32}
    (hSided : (pool count sides).Sided) :
    ∃ roll : Roll (.pool count sides),
      roll.total = (pool count sides).maximum := by
  rw [sided_pool_iff] at hSided
  refine
    ⟨.pool (.all sides.toNat fun hCount =>
      ⟨hSided hCount, Nat.le_refl sides.toNat⟩), ?_⟩
  rw [Roll.total, Faces.sum_all, Int.natCast_mul]
  rfl

/-
  Both bounds are reached. To reach a bound of a difference, the
  right side is rolled to its other bound.
-/
theorem Sided.exists_rolls
    (hSided : e.Sided) :
    (∃ roll : Roll e, roll.total = e.minimum) ∧
      ∃ roll : Roll e, roll.total = e.maximum := by
  induction e with
  | pool count sides =>
      exact
        ⟨exists_roll_eq_minimum hSided, exists_roll_eq_maximum hSided⟩
  | constant n => exact ⟨⟨.constant n, rfl⟩, .constant n, rfl⟩
  | compound lhs op rhs ihLeft ihRight =>
      rcases ihLeft hSided.1 with
        ⟨⟨leftLow, hLeftLow⟩, leftHigh, hLeftHigh⟩
      rcases ihRight hSided.2 with
        ⟨⟨rightLow, hRightLow⟩, rightHigh, hRightHigh⟩
      cases op with
      | add =>
          refine
            ⟨⟨.compound leftLow .add rightLow, ?_⟩,
              .compound leftHigh .add rightHigh, ?_⟩
          · rw [Roll.total, hLeftLow, hRightLow]
            rfl
          · rw [Roll.total, hLeftHigh, hRightHigh]
            rfl
      | subtract =>
          refine
            ⟨⟨.compound leftLow .subtract rightHigh, ?_⟩,
              .compound leftHigh .subtract rightLow, ?_⟩
          · rw [Roll.total, hLeftLow, hRightHigh]
            rfl
          · rw [Roll.total, hLeftHigh, hRightLow]
            rfl

/- An expression can be rolled only if its dice have sides. -/
theorem nonempty_roll_iff :
    Nonempty (Roll e) ↔ e.Sided := by
  constructor
  · rintro ⟨roll⟩
    induction roll with
    | @pool count sides faces =>
        rw [sided_pool_iff]
        intro hCount
        have hPos : 0 < faces.shown.length := by
          rw [faces.length_eq, Nat.pos_iff_ne_zero]
          exact fun hZero => hCount (UInt32.toNat_inj.mp hZero)
        rcases List.exists_mem_of_length_pos hPos with
          ⟨face, hFace⟩
        rcases faces.shown_face face hFace with ⟨hOne, hSides⟩
        exact Nat.le_trans hOne hSides
    | constant n => trivial
    | compound left op right ihLeft ihRight =>
        exact ⟨ihLeft, ihRight⟩
  · intro hSided
    rcases hSided.exists_rolls with ⟨⟨roll, -⟩, -⟩
    exact ⟨roll⟩

/-
  The bounds are the extreme totals: every roll stays within
  them, and some rolls reach them if the dice have sides.
-/
theorem extremes_rolled (e : DiceExpression) :
    (∀ roll : Roll e,
        e.minimum ≤ roll.total ∧ roll.total ≤ e.maximum) ∧
      (e.Sided →
        (∃ roll : Roll e, roll.total = e.minimum) ∧
          ∃ roll : Roll e, roll.total = e.maximum) :=
  ⟨Roll.within, Sided.exists_rolls⟩

/- A difference in which a difference is subtracted. -/
def wideRoll : DiceExpression :=
  pool 2 6 - (pool 1 4 - .constant 3)

theorem extremes_rolled_wideRoll :
    wideRoll.Sided ∧ (wideRoll.minimum, wideRoll.maximum) = (1, 14) ∧
      (∃ roll : Roll wideRoll, roll.total = 1) ∧
        ∃ roll : Roll wideRoll, roll.total = 14 := by
  have hSided : wideRoll.Sided :=
    ⟨fun _ => by decide, fun _ => by decide, trivial⟩
  have hBounds :
      (wideRoll.minimum, wideRoll.maximum) = (1, 14) := by
    decide
  have hReached := (extremes_rolled wideRoll).2 hSided
  rw [(Prod.mk.inj hBounds).1, (Prod.mk.inj hBounds).2] at hReached
  exact ⟨hSided, hBounds, hReached⟩

end DiceExpression

end CreatureProse
