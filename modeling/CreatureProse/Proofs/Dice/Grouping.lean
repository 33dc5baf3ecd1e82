import CreatureProse.Proofs.Dice.Bounds
import CreatureProse.Proofs.Dice.Text
import Mathlib.Algebra.Group.Int.Defs

/-
  What can be told of an expression from its text. The text tells
  the terms and their operators, and so the expression itself if
  its terms are joined from the left. The bounds can be told if
  only single terms are subtracted, as long as no total on the
  way is too large to be held.

  Main declarations:
    * `DiceExpression.spine_eq_of_text_eq`
    * `DiceExpression.Bracketless`
    * `DiceExpression.exactBounds_eq_add`
    * `DiceExpression.told_of_text_eq`
    * `DiceExpression.not_bounds_eq_of_text_eq`
-/

namespace CreatureProse.DiceExpression

open CreatureProse.Parser

variable {e f : DiceExpression}

------------------------------------------------------------
-- Terms and Operators
------------------------------------------------------------

/- Expressions with the same text are read as the same one. -/
theorem regrouped_eq_of_text_eq
    (hFirst : e.Unsigned)
    (hSecond : f.Unsigned)
    (hText : e.text = f.text) :
    e.regrouped = f.regrouped := by
  have hLeft := parse?_append hFirst "" (notNext_nil goesOn)
  have hRight := parse?_append hSecond "" (notNext_nil goesOn)
  rw [hText, hRight, Option.some.injEq] at hLeft
  exact (congrArg Prod.fst hLeft).symm

/- They have the same terms with the same operators. -/
theorem spine_eq_of_text_eq
    (hFirst : e.Unsigned)
    (hSecond : f.Unsigned)
    (hText : e.text = f.text) :
    e.head = f.head ∧ e.steps = f.steps := by
  have hSame := regrouped_eq_of_text_eq hFirst hSecond hText
  have hSpine
      {e : DiceExpression}
      (hUnsigned : e.Unsigned) :
      e.regrouped.head = e.head ∧ e.regrouped.steps = e.steps := by
    rcases hUnsigned.isTerm with ⟨hHead, hSteps⟩
    rw [regrouped, head_joinTerms, steps_joinTerms _ hSteps,
      hHead.head_eq, hHead.steps_eq]
    exact ⟨rfl, rfl⟩
  rw [← (hSpine hFirst).1, ← (hSpine hFirst).2, hSame]
  exact hSpine hSecond

/- Whether the right side of every operator is a single term. -/
def JoinedLeft : DiceExpression → Prop
| .compound lhs _ rhs => lhs.JoinedLeft ∧ rhs.IsTerm
| _ => True

theorem JoinedLeft.regrouped_eq
    (hJoined : e.JoinedLeft) :
    e.regrouped = e := by
  induction e with
  | pool _ _ | constant _ => rfl
  | compound lhs op rhs ihLeft ihRight =>
      rcases hJoined with ⟨hLeft, hRight⟩
      have hLast :
          (compound lhs op rhs).regrouped =
            .compound lhs.regrouped op rhs := by
        rw [regrouped, head, steps, hRight.head_eq,
          hRight.steps_eq, joinTerms, List.foldl_append]
        rfl
      rw [hLast, ihLeft hLeft]

------------------------------------------------------------
-- Bounds
------------------------------------------------------------

/-
  An expression whose text needs no brackets, as only single
  terms are subtracted.
-/
def Bracketless : DiceExpression → Prop
| .compound lhs .add rhs => lhs.Bracketless ∧ rhs.Bracketless
| .compound lhs .subtract rhs => lhs.Bracketless ∧ rhs.IsTerm
| _ => True

/- What terms add to the bounds, as their operators tell. -/
def stepsBounds : List (Operator × DiceExpression) → Int × Int
| [] => (0, 0)
| x :: more => x.1.change x.2.exactBounds + stepsBounds more

theorem stepsBounds_append
    (first second : List (Operator × DiceExpression)) :
    stepsBounds (first ++ second) =
      stepsBounds first + stepsBounds second := by
  induction first with
  | nil => exact (zero_add _).symm
  | cons x more ih =>
      rw [List.cons_append, stepsBounds, stepsBounds, ih, add_assoc]

/- Without brackets each term adds to the bounds on its own. -/
theorem exactBounds_eq_add
    (hBracketless : e.Bracketless) :
    e.exactBounds = e.head.exactBounds + stepsBounds e.steps := by
  induction e with
  | pool _ _ | constant _ => exact (add_zero _).symm
  | compound lhs op rhs ihLeft ihRight =>
      rw [exactBounds, head, steps, stepsBounds_append, stepsBounds,
        ← add_assoc]
      cases op with
      | add =>
          rcases hBracketless with ⟨hLeft, hRight⟩
          rw [← ihLeft hLeft, ihRight hRight]
          rfl
      | subtract =>
          rcases hBracketless with ⟨hLeft, hRight⟩
          rw [← ihLeft hLeft, hRight.head_eq, hRight.steps_eq]
          exact congrArg _ (add_zero _).symm

/-
  What the texts of expressions without negative numbers tell,
  if they are the same: the terms and their operators; the whole
  expression, if terms are joined from the left; and the bounds,
  if no brackets are left out and no total stops on the way.
-/
structure Told (e f : DiceExpression) : Prop where
  regrouped_eq : e.regrouped = f.regrouped
  eq_of_joinedLeft : e.JoinedLeft → f.JoinedLeft → e = f
  bounds_eq :
    e.Bracketless → f.Bracketless → e.Steady → f.Steady →
      e.minimum = f.minimum ∧ e.maximum = f.maximum

theorem told_of_text_eq
    (hFirst : e.Unsigned)
    (hSecond : f.Unsigned)
    (hText : e.text = f.text) :
    Told e f := by
  have hSame := regrouped_eq_of_text_eq hFirst hSecond hText
  refine ⟨hSame, ?_, ?_⟩
  · intro hLeft hRight
    rw [← hLeft.regrouped_eq, hSame, hRight.regrouped_eq]
  · intro hLeft hRight hLeftSteady hRightSteady
    rcases spine_eq_of_text_eq hFirst hSecond hText with
      ⟨hHead, hSteps⟩
    have hBounds : e.bounds = f.bounds := by
      rw [bounds_of_steady hLeftSteady,
        bounds_of_steady hRightSteady, exactBounds_eq_add hLeft,
        exactBounds_eq_add hRight, hHead, hSteps]
    exact ⟨congrArg Prod.fst hBounds, congrArg Prod.snd hBounds⟩

/- A total that stops on the way depends on the grouping. -/
example :
    let huge := pool 4294967295 4294967295
    let e := huge + (huge - .constant 5)
    let f := huge + huge - .constant 5
    e.text = f.text ∧ f.maximum < e.maximum := by
  decide +kernel

/- Three terms of which the last two are joined first. -/
def groupedRight (op next : Operator) : DiceExpression :=
  .compound (.constant 10) op
    (.compound (.constant 1) next (.constant 2))

/- The same terms, joined from the left. -/
def groupedLeft (op next : Operator) : DiceExpression :=
  .compound (.compound (.constant 10) op (.constant 1)) next
    (.constant 2)

theorem unsigned_grouped (op next : Operator) :
    (groupedRight op next).Unsigned ∧
      (groupedLeft op next).Unsigned := by
  simp [groupedRight, groupedLeft, Unsigned]

theorem told_of_text_eq_grouped :
    let e := groupedRight .add .subtract
    let f := groupedLeft .add .subtract
    (e.text = "10 + 1 - 2" ∧ f.text = "10 + 1 - 2") ∧ Told e f ∧
      e.minimum = f.minimum ∧ e.maximum = f.maximum := by
  have hUnsigned := unsigned_grouped .add .subtract
  have hTexts :
      (groupedRight .add .subtract).text = "10 + 1 - 2" ∧
        (groupedLeft .add .subtract).text = "10 + 1 - 2" := by
    decide +kernel
  have hTold := told_of_text_eq hUnsigned.1 hUnsigned.2
    (hTexts.1.trans hTexts.2.symm)
  have hConstant (n : Int32) : (constant n).Fits :=
    fitBounds_constant n
  have hRight : (groupedRight .add .subtract).Fits :=
    ⟨hConstant 10, ⟨hConstant 1, hConstant 2, by decide⟩,
      by decide⟩
  have hLeft : (groupedLeft .add .subtract).Fits :=
    ⟨⟨hConstant 10, hConstant 1, by decide⟩, hConstant 2,
      by decide⟩
  have hTerm : (constant 2).IsTerm := by simp [IsTerm]
  exact ⟨hTexts, hTold, hTold.bounds_eq ⟨trivial, trivial, hTerm⟩
    ⟨⟨trivial, trivial⟩, hTerm⟩ (Or.inl hRight) (Or.inl hLeft)⟩

/- Of a sum that is subtracted the text does not tell the bounds. -/
theorem not_bounds_eq_of_text_eq :
    ¬ ∀ e f : DiceExpression, e.Unsigned → f.Unsigned →
      e.text = f.text →
        e.minimum = f.minimum ∧ e.maximum = f.maximum := by
  intro hAlways
  have hUnsigned := unsigned_grouped .subtract .add
  have hTexts :
      (groupedRight .subtract .add).text =
        (groupedLeft .subtract .add).text := by
    decide +kernel
  have hBounds :=
    hAlways _ _ hUnsigned.1 hUnsigned.2 hTexts
  revert hBounds
  decide

end CreatureProse.DiceExpression
