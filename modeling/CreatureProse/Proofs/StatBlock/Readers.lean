import CreatureProse.Proofs.StatBlock.Memo

/-
  The readers for two configurations carry the same stamps. A
  result is therefore shared between them: it is never stale for
  the other reader, also where that one would read the input
  differently.

  Main declarations:
    * `Memo.Shared` and `Memo.shared_of_stamp_eq`
    * `featureReader_read_eq_iff`
    * `actionReader_read_eq_iff`
    * `Readers.shared_ofConfig`
-/

namespace CreatureProse

------------------------------------------------------------
-- Shared Results
------------------------------------------------------------

namespace Memo

variable {ι ρ : Type}

/- Only the stamp of a reader decides what is stale for it. -/
theorem isStale_congr
    (m : Memo ι ρ)
    {p q : Reader ι ρ}
    (hStamp : p.stamp = q.stamp) :
    m.isStale p = m.isStale q := by
  unfold isStale Stamped.isStale
  rw [hStamp]

/- An input that has not been read is stale for every reader. -/
@[simp] theorem isStale_unread
    (input : ι)
    (reader : Reader ι ρ) :
    (unread input : Memo ι ρ).isStale reader = true :=
  rfl

/- The first refresh gives what the reader finds. -/
theorem value?_refresh_unread
    (input : ι)
    (reader : Reader ι ρ) :
    ((unread input : Memo ι ρ).refresh reader).value? =
      reader.read input := by
  rw [refresh, refreshed_of_stale (isStale_unread input reader)]
  rfl

/-
  A result is shared between two readers: what the first has
  read is not stale for the second, which leaves it alone. Only
  after the result is forgotten does the second one read.
-/
structure Shared
    (p q : Reader ι ρ)
    (input : ι) : Prop where
  fresh : ((unread input).refresh p).isStale q = false
  kept :
    ((unread input).refresh p).refreshed q =
      ((unread input).refresh p, false)
  value_eq :
    (((unread input).refresh p).refresh q).value? =
      p.read input
  value_of_invalidate :
    (((unread input).refresh p).invalidate.refresh q).value? =
      q.read input

/- Readers with one stamp share their results. -/
theorem shared_of_stamp_eq
    {p q : Reader ι ρ}
    (hStamp : p.stamp = q.stamp)
    (input : ι) :
    Shared p q input := by
  have hFresh :
      ((unread input).refresh p).isStale q = false := by
    rw [← isStale_congr _ hStamp]
    exact isStale_refresh _ p
  refine ⟨hFresh, refreshed_of_fresh hFresh, ?_, ?_⟩
  · rw [refresh, refreshed_of_fresh hFresh]
    exact value?_refresh_unread input p
  · rw [invalidate, refresh_input]
    exact value?_refresh_unread input q

end Memo

------------------------------------------------------------
-- What the Configuration Decides
------------------------------------------------------------

/-
  Leaving out the empty value loses nothing, as long as there is
  only one.
-/
theorem unless_empty_inj
    {α : Type}
    {isEmpty : α → Bool}
    (hUnique :
      ∀ a b, isEmpty a = true → isEmpty b = true → a = b)
    {a b : α} :
    (if isEmpty a then none else some a) =
        (if isEmpty b then none else some b) ↔
      a = b := by
  constructor
  · intro hEq
    cases ha : isEmpty a with
    | true =>
        cases hb : isEmpty b with
        | true => exact hUnique a b ha hb
        | false => simp [ha, hb] at hEq
    | false =>
        cases hb : isEmpty b with
        | true => simp [ha, hb] at hEq
        | false => simpa [ha, hb] using hEq
  · intro hEq
    rw [hEq]

/- Only one reading of a feature holds nothing. -/
theorem FeatureReading.eq_of_isEmpty
    (r s : FeatureReading)
    (hr : r.isEmpty = true)
    (hs : s.isEmpty = true) :
    r = s := by
  cases r
  cases s
  simp_all [FeatureReading.isEmpty]

/- Only one reading of an action holds nothing. -/
theorem ActionReading.eq_of_isEmpty
    (r s : ActionReading)
    (hr : r.isEmpty = true)
    (hs : s.isEmpty = true) :
    r = s := by
  cases r
  cases s
  simp_all [ActionReading.isEmpty]

/-
  Two configurations read the same in a feature exactly if they
  point out the same in its description.
-/
theorem featureReader_read_eq_iff
    (c₁ c₂ : Config)
    (feature : Feature) :
    (featureReader c₁).read feature =
        (featureReader c₂).read feature ↔
      (FeatureReading.ofFeature c₁ feature).annotations =
        (FeatureReading.ofFeature c₂ feature).annotations := by
  simp only [featureReader]
  rw [unless_empty_inj FeatureReading.eq_of_isEmpty]
  simp [FeatureReading.ofFeature]

/- What is pointed out in the description of an action. -/
def ActionReading.pointedOut
    (config : Config)
    (action : CreatureAction) : List (Located Annotation) :=
  (FeatureReading.ofFeature config
    ⟨action.name, action.description⟩).annotations

/-
  Two configurations read the same in an action exactly if they
  point out the same in its description and find the same
  action there.
-/
theorem actionReader_read_eq_iff
    (c₁ c₂ : Config)
    (action : CreatureAction) :
    (actionReader c₁).read action =
        (actionReader c₂).read action ↔
      ActionReading.pointedOut c₁ action =
          ActionReading.pointedOut c₂ action ∧
        (Action.ofText? c₁.vocabulary
            action.description).map Prod.fst =
          (Action.ofText? c₂.vocabulary
            action.description).map Prod.fst := by
  simp only [actionReader, ActionReading.ofAction?]
  rw [unless_empty_inj ActionReading.eq_of_isEmpty]
  simp [ActionReading.pointedOut, FeatureReading.ofFeature,
    and_comm]

------------------------------------------------------------
-- Readers of Configurations
------------------------------------------------------------

namespace Readers

/- The stamp of a feature reader shows no configuration. -/
theorem ofConfig_feature_stamp (config : Config) :
    (ofConfig config).feature.stamp = featureStamp := rfl

/- The stamp of an action reader shows no configuration. -/
theorem ofConfig_action_stamp (config : Config) :
    (ofConfig config).action.stamp = actionStamp := rfl

/- Feature readers of two configurations share their results. -/
theorem shared_feature
    (c₁ c₂ : Config)
    (feature : Feature) :
    Memo.Shared (ofConfig c₁).feature (ofConfig c₂).feature
      feature := by
  apply Memo.shared_of_stamp_eq
  rw [ofConfig_feature_stamp, ofConfig_feature_stamp]

/- Action readers of two configurations share their results. -/
theorem shared_action
    (c₁ c₂ : Config)
    (action : CreatureAction) :
    Memo.Shared (ofConfig c₁).action (ofConfig c₂).action
      action := by
  apply Memo.shared_of_stamp_eq
  rw [ofConfig_action_stamp, ofConfig_action_stamp]

/-
  What the readers of one configuration find stays in place for
  the readers of any other. It is what those would find exactly
  if the two configurations point out the same in the
  description and, for an action, find the same action there.
-/
theorem shared_ofConfig
    (c₁ c₂ : Config) :
    (∀ feature : Feature,
      Memo.Shared (ofConfig c₁).feature (ofConfig c₂).feature
          feature ∧
        ((((Memo.unread feature).refresh
              (ofConfig c₁).feature).refresh
              (ofConfig c₂).feature).value? =
            (ofConfig c₂).feature.read feature ↔
          (FeatureReading.ofFeature c₁ feature).annotations =
            (FeatureReading.ofFeature c₂
              feature).annotations)) ∧
      ∀ action : CreatureAction,
        Memo.Shared (ofConfig c₁).action (ofConfig c₂).action
            action ∧
          ((((Memo.unread action).refresh
                (ofConfig c₁).action).refresh
                (ofConfig c₂).action).value? =
              (ofConfig c₂).action.read action ↔
            ActionReading.pointedOut c₁ action =
                ActionReading.pointedOut c₂ action ∧
              (Action.ofText? c₁.vocabulary
                  action.description).map Prod.fst =
                (Action.ofText? c₂.vocabulary
                  action.description).map Prod.fst) := by
  constructor
  · intro feature
    have hShared := shared_feature c₁ c₂ feature
    refine ⟨hShared, ?_⟩
    rw [hShared.value_eq]
    exact featureReader_read_eq_iff c₁ c₂ feature
  · intro action
    have hShared := shared_action c₁ c₂ action
    refine ⟨hShared, ?_⟩
    rw [hShared.value_eq]
    exact actionReader_read_eq_iff c₁ c₂ action

/- A configuration under which nothing is pointed out. -/
def nothingPointedOut : Config where
  vocabulary := .empty
  catalog := .empty
  annotateDice := false

/- A configuration under which only rolls are pointed out. -/
def rollsPointedOut : Config where
  vocabulary := .empty
  catalog := .empty
  annotateDice := true

/- A feature that is nothing but a roll. -/
def rollFeature : Feature where
  name := "Bite"
  description := "1d4"

/- Without rolls nothing is found in the feature. -/
theorem read_nothingPointedOut :
    (ofConfig nothingPointedOut).feature.read rollFeature =
      none := by
  decide +kernel

/- With rolls something is found in it. -/
theorem read_rollsPointedOut :
    (ofConfig rollsPointedOut).feature.read rollFeature ≠
      none := by
  decide +kernel

/-
  A result is not stale for every reader that reads the input
  differently.
-/
theorem not_stale_of_read_ne :
    ¬ ∀ (c₁ c₂ : Config) (feature : Feature),
      (ofConfig c₁).feature.read feature ≠
          (ofConfig c₂).feature.read feature →
        ((Memo.unread feature).refresh
          (ofConfig c₁).feature).isStale
            (ofConfig c₂).feature = true := by
  intro hStale
  have hRead :
      (ofConfig nothingPointedOut).feature.read rollFeature ≠
        (ofConfig rollsPointedOut).feature.read
          rollFeature := by
    rw [read_nothingPointedOut]
    exact read_rollsPointedOut.symm
  have hRollStale :=
    hStale nothingPointedOut rollsPointedOut rollFeature hRead
  have hRollFresh :=
    (shared_feature nothingPointedOut rollsPointedOut
      rollFeature).fresh
  exact Bool.false_ne_true (hRollFresh.symm.trans hRollStale)

end Readers

end CreatureProse
