import CreatureProse.Form.Dice
import CreatureProse.Proofs.Form.Basic

/-
  Spans, dice, usage limits and what is pointed out in a text
  are storable.

  Main declarations:
    * `DiceExpression.restoredWithin?_stored`
-/

namespace CreatureProse

open Storage

------------------------------------------------------------
-- Spans
------------------------------------------------------------

instance : Storable Span := by
  refine .ofRecord (allFields? ["start", "end"]) rfl
    (fun _ => rfl) (fun _ => rfl) (by decide) (by decide)
    (by simp) ?_ ?_
  · intro p hNone
    unfold instRestorableSpan
    simp only [hNone]
  · intro p levels a b hSome
    unfold instRestorableSpan
    simp [hSome, Outline.levelsOfFields, and_assoc]

section Located

variable
  {α : Type}
  [Outlined α]
  [Restorable α]
  [Storable α]

instance : Storable (Located α) := by
  refine .ofRecord (allFields? ["value", "span"]) rfl
    (fun _ => rfl) (fun _ => rfl) (by decide) (by decide)
    (by simp) ?_ ?_
  · intro p hNone
    unfold instRestorableLocated
    simp only [hNone]
  · intro p levels a b hSome
    unfold instRestorableLocated
    simp [hSome, Outline.levelsOfFields, and_assoc]

end Located

------------------------------------------------------------
-- Dice
------------------------------------------------------------

/- A modifier is stored as its number. -/
instance : Storable Modifier where
  named _ := rfl
  stored_ne_nil m := ofInt_ne_nil m.value.toInt
  restore?_stored {_ a _} :=
    map_restore?_stored (a := a.value)

instance : Storable Operator :=
  .ofTags (fun _ => rfl) (fun _ => rfl)
    (fun a => by cases a <;> decide) (by decide) (by decide)

namespace DiceExpression

theorem named_outlined (e : DiceExpression) :
    e.outlined.named = true := by
  induction e with
  | pool count sides => rfl
  | constant n =>
      exact Outline.named_choice (by decide) (by simp) (by simp)
  | compound lhs op rhs ihLeft ihRight =>
      exact Outline.named_choice (by decide) (by simp)
        (by simp [ihLeft, ihRight])

/- A die is restored where one more level is allowed. -/
theorem restoredDie?_stored
    {levels : Nat}
    {sides b : UInt32} :
    restoredDie? (.value levels
        (.map (Outline.storedFields
          [("sides", outline sides)]))) = some b ↔
      b = sides ∧ 1 ≤ levels := by
  unfold restoredDie? allFields?
  cases levels with
  | zero => simp [fields?_zero]
  | succ levels =>
      have hLevels : (outline sides).levels = 0 := rfl
      rw [fields?_storedFields]
      · simp [hLevels]
      · rfl
      · decide

/- A pool is restored where two more levels are allowed. -/
theorem restoredPool?_stored
    {levels : Nat}
    {count sides : UInt32}
    {b : DiceExpression} :
    restoredPool? (.value levels
        (.map (Outline.storedFields
          [("count", outline count),
            ("die", .record "Die"
              [("sides", outline sides)])]))) = some b ↔
      b = .pool count sides ∧ 2 ≤ levels := by
  unfold restoredPool? allFields?
  cases levels with
  | zero => simp [fields?_zero]
  | succ levels =>
      have hLevels : (outline count).levels = 0 := rfl
      rw [fields?_storedFields]
      · simp [Outline.stored, hLevels,
          bind_eq_some_of_iff fun _ => restoredDie?_stored,
          and_comm, eq_comm (b := b)]
      · rfl
      · decide

/- The two sides and the operator are restored one by one. -/
theorem restoredWithin?_compound
    (levels : Nat)
    (lhs op rhs : Value) :
    restoredWithin? (levels + 1)
        (.map
          [(.ofString "compound", .list [lhs, op, rhs])]) =
      (restoredWithin? levels lhs).bind fun lhs =>
        (restore? (.value levels op)).bind fun op =>
          (restoredWithin? levels rhs).map fun rhs =>
            .compound lhs op rhs := by
  rw [restoredWithin?.eq_def]
  simp only [tagIndex?_ofString]
  cases restoredWithin? levels lhs <;>
    cases (restore? (Part.value levels op) : Option Operator) <;>
    cases restoredWithin? levels rhs <;>
    rfl

theorem restoredWithin?_compound_zero
    (parts : List Value) :
    restoredWithin? 0
        (.map [(.ofString "compound", .list parts)]) =
      none := by
  rw [restoredWithin?.eq_def]
  simp only [tagIndex?_ofString]
  rfl

/-
  An expression is restored where all the levels of its tree are
  allowed.
-/
theorem restoredWithin?_stored
    {levels : Nat}
    {e b : DiceExpression} :
    restoredWithin? levels e.outlined.stored = some b ↔
      b = e ∧ e.outlined.levels ≤ levels := by
  induction e generalizing levels b with
  | pool count sides =>
      rw [outlined, Outline.stored, restoredWithin?.eq_def]
      simp only [tagIndex?_ofString]
      exact restoredPool?_stored
  | constant n =>
      rw [outlined, Outline.stored, restoredWithin?.eq_def]
      simp only [tagIndex?_ofString]
      exact map_restore?_stored
  | compound lhs op rhs ihLeft ihRight =>
      simp only [outlined, Outline.stored, Outline.storedItems,
        Outline.levels, Outline.levelsOfItems]
      cases levels with
      | zero =>
          rw [restoredWithin?_compound_zero]
          simp
      | succ levels =>
          have hOp : (outline op).levels = 0 := rfl
          rw [restoredWithin?_compound]
          simp [bind_eq_some_of_iff fun _ => ihLeft,
            ihRight, hOp]
          grind

end DiceExpression

instance : Storable DiceExpression where
  named := DiceExpression.named_outlined
  stored_ne_nil e := by
    cases e <;> exact Value.noConfusion
  restore?_stored := DiceExpression.restoredWithin?_stored

------------------------------------------------------------
-- Usage Limits
------------------------------------------------------------

instance : Storable Recharge where
  named a := by
    cases a with
    | rest short long => rfl
    | day => rfl
    | turnStart faces =>
        exact Outline.named_choice (by decide) (by simp) (by simp)
  stored_ne_nil a := by
    cases a <;> exact Value.noConfusion
  restore?_stored {levels a b} := by
    unfold instOutlinedRecharge instRestorableRecharge
    cases a with
    | rest short long =>
        simp only [Outline.stored, choice?_map, Outline.levels]
        change (match allFields? ["short", "long"] (.value levels
            (.map (Outline.storedFields
              [("short", outline short),
                ("long", outline long)]))) with
          | some [short, long] => do
            let short ← required? short
            let long ← required? long
            return Recharge.rest short long
          | _ => none) = some b ↔ _
        unfold allFields?
        cases levels with
        | zero => simp [fields?_zero]
        | succ levels =>
            rw [fields?_storedFields]
            · simp [Outline.levelsOfFields]
              grind
            · rfl
            · decide
    | day =>
        simp only [Outline.stored, choice?_ofString]
        change some .day = some b ↔ b = .day ∧ 0 ≤ levels
        simp [eq_comm]
    | turnStart faces =>
        simp only [Outline.stored, choice?_map, Outline.levels]
        exact map_restore?_stored

instance : Storable LimitedUse := by
  refine .ofRecord (allFields? ["amount", "recharge"]) rfl
    (fun _ => rfl) (fun _ => rfl) (by decide) (by decide)
    (by simp) ?_ ?_
  · intro p hNone
    unfold instRestorableLimitedUse
    simp only [hNone]
  · intro p levels a b hSome
    unfold instRestorableLimitedUse
    simp [hSome, Outline.levelsOfFields, and_assoc]

------------------------------------------------------------
-- References and Annotations
------------------------------------------------------------

instance : Storable ItemKind :=
  .ofTags (fun _ => rfl) (fun _ => rfl)
    (fun a => by cases a <;> decide) (by decide) (by decide)

instance : Storable ItemReference := by
  refine .ofRecord (allFields? ["text", "kind"]) rfl
    (fun _ => rfl) (fun _ => rfl) (by decide) (by decide)
    (by simp) ?_ ?_
  · intro p hNone
    unfold instRestorableItemReference
    simp only [hNone]
  · intro p levels a b hSome
    unfold instRestorableItemReference
    simp [hSome, Outline.levelsOfFields, and_assoc]

instance : Storable Annotation where
  named a := by
    cases a with
    | dice e | reference e =>
        exact Outline.named_choice (by decide) (by simp) (by simp)
  stored_ne_nil a := by
    cases a <;> exact Value.noConfusion
  restore?_stored {levels a b} := by
    unfold instOutlinedAnnotation instRestorableAnnotation
    cases a with
    | dice e | reference e =>
        simp only [Outline.stored, choice?_map, Outline.levels]
        exact map_restore?_stored

end CreatureProse
