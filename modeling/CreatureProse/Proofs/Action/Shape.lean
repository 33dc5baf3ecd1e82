import CreatureProse.Action.Basic
import CreatureProse.Proofs.Parser.Yields

/-
  The shape of the actions that are read from a text. No effect
  is empty: every clause of the grammar builds effects that have
  damage, a condition or a text, and what is done with them
  afterwards takes nothing away. An attack has a range, and the
  effects of an action with a saving throw are tied to the save
  of its header.

  Main declarations:
    * `Effect.listParser_yields`
    * `SaveAction.isEmpty_of_mem_mergeRiders`
    * `SaveAction.Tied`
    * `Action.Shape`
    * `Action.shape_of_ofText?`
-/

namespace CreatureProse

open CreatureProse.Parser Clause

------------------------------------------------------------
-- Building Effects
------------------------------------------------------------

namespace Effect

/- None of several effects is empty. -/
def AllFull (effects : List Effect) : Prop :=
  ∀ e ∈ effects, e.isEmpty = false

@[simp] theorem isEmpty_ofDamage
    (damage : List Damage) :
    (ofDamage damage).isEmpty = damage.isEmpty := by
  simp [isEmpty, ofDamage]

@[simp] theorem isEmpty_ofCondition
    (condition : Condition)
    (comment : Option String) :
    (ofCondition condition comment).isEmpty = false := rfl

@[simp] theorem isEmpty_ofText
    (text : String) :
    (ofText text).isEmpty = false := rfl

variable (e : Effect)

@[simp] theorem isEmpty_under
    (conditions : Conditions) :
    (e.under conditions).isEmpty = e.isEmpty := rfl

@[simp] theorem isEmpty_replacingDamage :
    e.replacingDamage.isEmpty = e.isEmpty := rfl

@[simp] theorem isEmpty_onFailed
    (save : SavingThrow) :
    (e.onFailed save).isEmpty = e.isEmpty := rfl

@[simp] theorem isEmpty_when
    (circumstance : String) :
    (e.when circumstance).isEmpty = e.isEmpty := rfl

@[simp] theorem isEmpty_onSubject
    (who : String) :
    (onSubject e who).isEmpty = e.isEmpty := by
  unfold onSubject
  split
  · rfl
  · rfl

@[simp] theorem isEmpty_beyondMargin
    (save : SavingThrow)
    (margin : UInt32) :
    (beyondMargin save margin e).isEmpty = e.isEmpty := rfl

@[simp] theorem allFull_nil : AllFull [] := by
  intro e he
  cases he

@[simp] theorem allFull_cons
    {effects : List Effect} :
    AllFull (e :: effects) ↔
      e.isEmpty = false ∧ AllFull effects :=
  List.forall_mem_cons

variable {e}

theorem allFull_singleton
    (he : e.isEmpty = false) :
    AllFull [e] :=
  (allFull_cons e).mpr ⟨he, allFull_nil⟩

/- What keeps each effect full keeps all of them full. -/
theorem AllFull.map
    {effects : List Effect}
    {f : Effect → Effect}
    (hFull : AllFull effects)
    (hKeeps : ∀ e, (f e).isEmpty = e.isEmpty) :
    AllFull (effects.map f) := by
  intro e he
  rcases List.mem_map.mp he with ⟨original, hMem, rfl⟩
  rw [hKeeps]
  exact hFull original hMem

------------------------------------------------------------
-- Clauses of the Grammar
------------------------------------------------------------

/- The damages of a list are never none. -/
theorem damageClause_yields : Yields damageClause AllFull := by
  apply Yields.map₂ (yields_filter _ _) (Yields.any _)
  intro damage comment hDamage _
  rw [allFull_cons, isEmpty_ofDamage]
  refine ⟨by simpa using hDamage, ?_⟩
  intro e he
  rcases Option.mem_toList.mp he with hSome
  rcases Option.map_eq_some_iff.mp hSome with ⟨s, -, rfl⟩
  rfl

theorem versatileClause_yields :
    Yields versatileClause AllFull :=
  (Yields.any _).map fun damage _ => by simp

theorem meleeOrRangedClause_yields :
    Yields meleeOrRangedClause AllFull :=
  (Yields.any _).map₂ (Yields.any _) fun first second _ _ => by
    simp

theorem changingClause_yields :
    Yields changingClause AllFull :=
  (Yields.any _).map₂ (Yields.any _) fun first second _ _ => by
    simp

theorem replacementClause_yields :
    Yields replacementClause AllFull := by
  have hGrapple :
      Yields grappleInstead fun e => e.isEmpty = false :=
    (Yields.any _).map fun comment _ => by simp
  have hOther :
      Yields otherInstead fun e => e.isEmpty = false :=
    (Yields.any _).map fun text _ => by simp
  exact Yields.map (hGrapple.orElse hOther).seqRight
    fun _ => allFull_singleton

theorem takenDamage_yields
    (verb : String) :
    Yields (takenDamage verb) fun e => e.isEmpty = false :=
  (Yields.any _).map fun _ _ => by simp

theorem sentenceText_yields :
    Yields (ofText <$> restOfSentence)
      fun e => e.isEmpty = false :=
  (Yields.any _).map fun _ _ => by simp

variable (vocabulary : Vocabulary)

theorem predicate_yields :
    Yields (predicate vocabulary)
      fun e => e.isEmpty = false := by
  have hHas :
      Yields (hasCondition vocabulary)
        fun e => e.isEmpty = false :=
    (Yields.any _).map₂ (Yields.any _) fun _ _ _ _ => by simp
  have hIs :
      Yields (isCondition vocabulary)
        fun e => e.isEmpty = false :=
    (Yields.any _).map₂ (Yields.any _) fun _ _ _ _ => by simp
  apply Yields.firstOf
  simp only [List.forall_mem_cons]
  exact
    ⟨takenDamage_yields "takes", hHas, hIs,
      sentenceText_yields, by simp⟩

theorem failedOutcome_yields :
    Yields (failedOutcome vocabulary)
      fun e => e.isEmpty = false := by
  apply Yields.firstOf
  simp only [List.forall_mem_cons]
  exact
    ⟨takenDamage_yields "take",
      (Yields.any _).map fun condition _ =>
        isEmpty_ofCondition condition none,
      Yields.as (isEmpty_ofCondition .prone none),
      sentenceText_yields, by simp⟩

theorem mustMakeClause_yields :
    Yields mustMakeClause AllFull := by
  have hDamage :
      Yields
        ((phrase ",").optional *> literal "taking "
          *> damageClause <* phrase "on a failed save")
        AllFull :=
    damageClause_yields.seqRight.seqLeft
  apply Yields.seq
  apply (Yields.any _).map₂ hDamage
  intro save effects _ hFull half
  exact hFull.map fun e => isEmpty_onFailed e _

theorem mustSucceedClause_yields :
    Yields (mustSucceedClause vocabulary) AllFull := by
  have hFirst :
      Yields (mustSucceed vocabulary)
        fun reply => reply.2.isEmpty = false :=
    (Yields.any _).map₂ (failedOutcome_yields vocabulary).seqRight
      fun _ _ _ hFull => hFull
  have hRider :
      Yields (marginRider vocabulary)
        fun reply => reply.2.isEmpty = false :=
    (Yields.any _).map₂ (predicate_yields vocabulary).seqRight
      fun _ _ _ hFull => hFull
  apply hFirst.map₂ hRider.optional
  intro reply rider hEffect hMore
  rw [allFull_cons]
  refine ⟨hEffect, ?_⟩
  cases rider with
  | none => exact allFull_nil
  | some more => exact allFull_singleton (hMore more rfl)

theorem savingThrowClause_yields :
    Yields (savingThrowClause vocabulary) AllFull :=
  mustMakeClause_yields.orElse
    ((Yields.any _).map₂ (mustSucceedClause_yields vocabulary)
      fun _ _ _ hFull =>
        hFull.map fun e => isEmpty_onSubject e _)

theorem ifTargetClause_yields :
    Yields (ifTargetClause vocabulary) AllFull := by
  have hFirst :
      Yields (firstOfSave vocabulary)
        fun e => e.isEmpty = false :=
    (mustSucceedClause_yields vocabulary).filterMap
      fun effects e hFull hHead =>
        hFull e (List.mem_of_head? hHead)
  exact (Yields.any _).map₂
    (hFirst.orElse (predicate_yields vocabulary))
    fun _ _ _ hFull => allFull_singleton hFull

theorem subjectClause_yields :
    Yields (subjectClause vocabulary) AllFull :=
  (Yields.any _).map₂ (predicate_yields vocabulary)
    fun who e _ hFull =>
      allFull_singleton ((isEmpty_onSubject e who).trans hFull)

theorem textClause_yields : Yields textClause AllFull := by
  apply (Yields.any _).filterMap
  intro s effects _ hEq
  split at hEq
  · cases hEq
  · cases hEq
    exact allFull_singleton rfl

/- No clause of any form makes an empty effect. -/
theorem clauses_yield :
    ∀ p ∈ clauses vocabulary, Yields p AllFull := by
  simp only [clauses, List.forall_mem_cons]
  exact
    ⟨versatileClause_yields, meleeOrRangedClause_yields,
      changingClause_yields, replacementClause_yields,
      damageClause_yields, savingThrowClause_yields vocabulary,
      ifTargetClause_yields vocabulary,
      subjectClause_yields vocabulary, textClause_yields,
      by simp⟩

theorem listParser_yields :
    Yields (listParser vocabulary) AllFull := by
  apply (Yields.firstOf (clauses_yield vocabulary)).separated.map
  intro lists hLists e he
  rcases List.mem_flatten.mp he with ⟨effects, hMem, he⟩
  exact hLists effects hMem e he

end Effect

open Effect

------------------------------------------------------------
-- Outcomes of a Save
------------------------------------------------------------

namespace SaveAction

variable {vocabulary : Vocabulary}

/- A rider goes into the comment of a condition that stays. -/
theorem allFull_mergeRidersInto
    {merged effects : List Effect}
    (hMerged : AllFull merged)
    (hEffects : AllFull effects) :
    AllFull (mergeRidersInto merged effects) := by
  fun_induction mergeRidersInto merged effects with
  | case1 merged =>
      intro e he
      exact hMerged e (List.mem_reverse.mp he)
  | case2 e more rider last before hRider applied hApplied
      comment changed ih =>
      rw [allFull_cons] at hMerged hEffects
      refine ih ((allFull_cons _).mpr ⟨?_, hMerged.2⟩) hEffects.2
      simp [isEmpty, changed]
  | case3 e more rider last before hRider hNone ih =>
      rw [allFull_cons] at hEffects
      exact ih ((allFull_cons _).mpr ⟨hEffects.1, hMerged⟩)
        hEffects.2
  | case4 merged e more hOther ih =>
      rw [allFull_cons] at hEffects
      exact ih ((allFull_cons _).mpr ⟨hEffects.1, hMerged⟩)
        hEffects.2

theorem allFull_untiedEffects
    (vocabulary : Vocabulary)
    (block : String) :
    AllFull (untiedEffects vocabulary block) := by
  unfold untiedEffects
  split
  · rename_i e more left hParse
    rw [Parser.parse?, Option.map_eq_some_iff] at hParse
    rcases hParse with ⟨⟨effects, r⟩, hRun, hEq⟩
    cases hEq
    apply allFull_mergeRidersInto allFull_nil
    intro e' he'
    rcases List.mem_append.mp he' with hRead | hLeft
    · exact (listParser_yields vocabulary).of_run hRun e' hRead
    · split at hLeft
      · cases hLeft
      · rw [List.mem_singleton.mp hLeft, isEmpty_ofText]
  · split
    · exact allFull_nil
    · exact allFull_singleton (isEmpty_ofText _)

/- An effect that is tied to a save, and is not empty. -/
def TiedEffect
    (save : SavingThrow)
    (e : Effect) : Prop :=
  e.conditions.savingThrow = some save ∧ e.isEmpty = false

theorem tied_of_mem_blockEffects
    {save : SavingThrow}
    {block : String}
    {e : Effect}
    (he : e ∈ blockEffects vocabulary save block) :
    TiedEffect save e := by
  unfold blockEffects at he
  split at he
  · cases he
  · rcases List.mem_map.mp he with ⟨untied, hMem, rfl⟩
    refine ⟨rfl, ?_⟩
    rw [isEmpty_onFailed]
    exact allFull_untiedEffects vocabulary _ untied hMem

/- The outcomes have effects, all of them tied to the save. -/
theorem tied_of_mem_outcomesIn
    {save : SavingThrow}
    {body : Prose}
    {o : Outcome}
    (ho : o ∈ outcomesIn vocabulary save body) :
    o.effects ≠ [] ∧ ∀ e ∈ o.effects, TiedEffect save e := by
  rcases List.mem_filterMap.mp ho with ⟨⟨kind, block⟩, -, hEq⟩
  dsimp only at hEq
  split at hEq
  · cases hEq
  · rename_i hSome
    cases hEq
    refine ⟨hSome, ?_⟩
    intro e he
    exact tied_of_mem_blockEffects he

/- An action whose outcomes are tied to the save of its header. -/
structure Tied
    (prose : Prose)
    (s : SaveAction) : Prop where
  header :
    ∃ target left,
      headerParser.parse? prose = some ((s.save, target), left)
  outcomes_ne_nil : s.outcomes ≠ []
  effects_ne_nil : ∀ o ∈ s.outcomes, o.effects ≠ []
  tied : ∀ o ∈ s.outcomes, ∀ e ∈ o.effects, TiedEffect s.save e

theorem tied_of_ofProse?
    {prose : Prose}
    {s : SaveAction}
    (hRead : ofProse? vocabulary prose = some s) :
    s.Tied prose := by
  unfold ofProse? at hRead
  split at hRead
  · cases hRead
  · rename_i save target rest hHeader
    dsimp only at hRead
    split at hRead
    · cases hRead
    · rename_i outcomes hSome
      cases hRead
      exact
        { header := ⟨target, rest, hHeader⟩
          outcomes_ne_nil := hSome
          effects_ne_nil := fun o ho =>
            (tied_of_mem_outcomesIn ho).1
          tied := fun o ho => (tied_of_mem_outcomesIn ho).2 }

end SaveAction

------------------------------------------------------------
-- Whole Actions
------------------------------------------------------------

theorem Attack.rangesParser_yields :
    Yields rangesParser fun ranges => ranges ≠ [] := by
  constructor
  intro prose c r ranges hRun hNil
  have hSome := (yields_filter _ _).of_run hRun
  rw [hNil] at hSome
  cases hSome

theorem Attack.parser_yields
    (vocabulary : Vocabulary) :
    Yields (Attack.parser vocabulary) fun a =>
      a.ranges ≠ [] ∧ AllFull a.effects := by
  constructor
  intro prose c r a hRun
  rcases run_seq_eq_some.mp hRun with
    ⟨f, middle, hHead, effects, hEffects, rfl⟩
  rcases run_seq_eq_some.mp hHead with
    ⟨g, next, hHit, ranges, hRanges, rfl⟩
  rcases run_map_eq_some.mp hHit with ⟨hit, -, rfl⟩
  exact
    ⟨rangesParser_yields.seqLeft.of_run hRanges,
      (listParser_yields vocabulary).seqRight.of_run hEffects⟩

namespace Action

/- The effects that an action has anywhere. -/
def effects : Action → List Effect
| .attack a => a.effects
| .save s => s.outcomes.flatMap Outcome.effects

/-
  The shape of an action that is read from a text and leaves a
  rest of it.
-/
structure Shape
    (text : String)
    (action : Action)
    (rest : String) : Prop where
  rest_suffix : rest.toList <:+ (Prose.folded text).toList
  ranges_ne_nil : ∀ a, action = .attack a → a.ranges ≠ []
  tied : ∀ s, action = .save s → s.Tied (Prose.folded text)
  full : ∀ e ∈ action.effects, e.isEmpty = false

/-
  Whatever action is read from a text, with whatever words for
  conditions, has this shape.
-/
theorem shape_of_ofText?
    (vocabulary : Vocabulary)
    {text rest : String}
    {action : Action}
    (hRead : ofText? vocabulary text = some (action, rest)) :
    action.Shape text rest := by
  unfold ofText? at hRead
  dsimp only at hRead
  split at hRead
  · rename_i a left hAttack
    cases hRead
    rw [Parser.parse?, Option.map_eq_some_iff] at hAttack
    rcases hAttack with ⟨⟨a, r⟩, hRun, hEq⟩
    cases hEq
    have hYields := (Attack.parser_yields vocabulary).of_run hRun
    refine
      { rest_suffix := ?_
        ranges_ne_nil := ?_
        tied := ?_
        full := hYields.2 }
    · rw [r.rest_eq, String.toList_ofList]
      exact List.drop_suffix ..
    · intro other hOther
      cases hOther
      exact hYields.1
    · intro s hSave
      cases hSave
  · rcases Option.map_eq_some_iff.mp hRead with
      ⟨s, hSave, hEq⟩
    cases hEq
    have hTied := SaveAction.tied_of_ofProse? hSave
    refine
      { rest_suffix := List.nil_suffix
        ranges_ne_nil := ?_
        tied := ?_
        full := ?_ }
    · intro a hAttack
      cases hAttack
    · intro other hOther
      cases hOther
      exact hTied
    · intro e he
      rcases List.mem_flatMap.mp he with ⟨o, ho, he⟩
      exact (hTied.tied o ho e he).2

/- A save with two outcomes. -/
def dreadGaze : String :=
  "Wisdom Saving Throw: DC 15, one creature. Failure: " ++
    "3 psychic damage. Success: Half damage."

/- Both outcomes of the save have an effect that is tied to it. -/
theorem shape_of_ofText?_dreadGaze :
    ∃ s, ofText? .empty dreadGaze = some (.save s, "") ∧
      s.outcomes.map Outcome.kind = [.failure, .success] ∧
      (Action.save s).Shape dreadGaze "" := by
  have hRead :
      (ofText? .empty dreadGaze).map (fun
        | (.save s, rest) =>
          (s.outcomes.map Outcome.kind, rest)
        | (.attack _, rest) => ([], rest)) =
        some ([.failure, .success], "") := by
    decide +kernel
  rcases Option.map_eq_some_iff.mp hRead with
    ⟨⟨action, rest⟩, hAction, hParts⟩
  cases action with
  | attack a => cases hParts
  | save s =>
      rw [Prod.mk.injEq] at hParts
      rcases hParts with ⟨hKinds, rfl⟩
      exact
        ⟨s, hAction, hKinds, shape_of_ofText? .empty hAction⟩

end Action

end CreatureProse
