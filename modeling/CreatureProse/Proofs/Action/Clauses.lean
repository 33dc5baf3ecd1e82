import CreatureProse.Action.EffectGrammar
import CreatureProse.Proofs.Parser.Consumes
import CreatureProse.Proofs.Parser.Standalone
import CreatureProse.Proofs.Parser.Start

/-
  The grammar of effects as a whole. It reads a text in place as
  on its own, its clauses never move back, and so a list of them
  always has an end. Of the forms of a clause only the last one,
  plain text, can begin with a stop.

  Main declarations:
    * `Effect.exists_run_listParser`
    * `Effect.run_clauses_of_stop`
-/

namespace CreatureProse

open CreatureProse.Parser Clause

------------------------------------------------------------
-- Reading in Place
------------------------------------------------------------

namespace DiceExpression

instance : Standalone poolParser := by
  unfold poolParser
  infer_instance

instance : Standalone constantParser := by
  unfold constantParser
  infer_instance

instance : Standalone operatorParser := by
  unfold operatorParser
  infer_instance

instance : Standalone parser := by
  unfold parser sumParser checkParser termParser
  infer_instance

end DiceExpression

namespace Clause

variable {s : String}

instance : Standalone (phrase s) := by
  unfold phrase
  infer_instance

instance : Standalone (spacedWord s) := by
  unfold spacedWord
  infer_instance

instance : Standalone sentence := by
  unfold sentence sentenceEnd
  infer_instance

instance : Standalone sentenceEnd := by
  unfold sentenceEnd
  infer_instance

instance : Standalone restOfSentence := by
  unfold restOfSentence
  infer_instance

instance : Standalone remark := by
  unfold remark
  infer_instance

instance : Standalone abilityName := by
  unfold abilityName
  infer_instance

instance : Standalone damageTypeName := by
  unfold damageTypeName
  infer_instance

instance (vocabulary : Vocabulary) :
    Standalone (conditionName vocabulary) := by
  unfold conditionName
  infer_instance

instance : Standalone subject := by
  unfold subject
  infer_instance

instance
    {marks : List (Parser String)}
    [Standalone (firstOf marks)] :
    Standalone (separators marks) := by
  unfold separators
  infer_instance

end Clause

instance : Standalone Damage.parser := by
  unfold Damage.parser Damage.diceParser Damage.alternativeParser
  infer_instance

instance : Standalone Damage.listParser := by
  unfold Damage.listParser
  infer_instance

instance : Standalone SavingThrow.parser := by
  unfold SavingThrow.parser
  infer_instance

namespace Effect

variable (vocabulary : Vocabulary) {verb : String}

instance : Standalone damageClause := by
  unfold damageClause
  infer_instance

instance : Standalone alternativeDamages := by
  unfold alternativeDamages
  infer_instance

instance : Standalone versatileClause := by
  unfold versatileClause
  infer_instance

instance : Standalone meleeOrRangedClause := by
  unfold meleeOrRangedClause
  infer_instance

instance : Standalone changingClause := by
  unfold changingClause knownCircumstances
  simp only [List.map_cons, List.map_nil]
  infer_instance

instance : Standalone replacementClause := by
  unfold replacementClause grappleInstead otherInstead
  infer_instance

instance : Standalone commentParser := by
  unfold commentParser
  infer_instance

instance : Standalone (takenDamage verb) := by
  unfold takenDamage
  infer_instance

instance : Standalone (predicate vocabulary) := by
  unfold predicate hasCondition isCondition
  infer_instance

instance : Standalone mustMakeClause := by
  unfold mustMakeClause halfOnSuccess
  infer_instance

instance : Standalone (failedOutcome vocabulary) := by
  unfold failedOutcome
  infer_instance

instance : Standalone (mustSucceed vocabulary) := by
  unfold mustSucceed
  infer_instance

instance : Standalone (marginRider vocabulary) := by
  unfold marginRider
  infer_instance

instance : Standalone (mustSucceedClause vocabulary) := by
  unfold mustSucceedClause
  infer_instance

instance : Standalone (savingThrowClause vocabulary) := by
  unfold savingThrowClause
  infer_instance

instance : Standalone pronoun := by
  unfold pronoun
  infer_instance

instance : Standalone (ifTargetClause vocabulary) := by
  unfold ifTargetClause firstOfSave
  infer_instance

instance : Standalone (subjectClause vocabulary) := by
  unfold subjectClause
  infer_instance

instance : Standalone textClause := by
  unfold textClause
  infer_instance

instance : Standalone (firstOf (clauses vocabulary)) := by
  unfold clauses
  infer_instance

instance : Standalone clauseSeparator := by
  unfold clauseSeparator
  infer_instance

instance : Standalone (listParser vocabulary) := by
  unfold listParser
  infer_instance

end Effect

------------------------------------------------------------
-- Lists of Clauses
------------------------------------------------------------

/- Separators are never empty. -/
theorem Clause.consumes_separators
    {marks : List (Parser String)} :
    Consumes (separators marks) :=
  consumes_repeated1.map

namespace Effect

/- A list of clauses is read from every position of every text. -/
theorem exists_run_listParser
    (vocabulary : Vocabulary)
    {prose : Prose}
    (c : Cursor prose) :
    ∃ effects r,
      (listParser vocabulary).run c = some (effects, r) := by
  have hSeparator : Consumes clauseSeparator := consumes_separators
  rcases exists_run_separated (firstOf (clauses vocabulary))
      hSeparator c with
    ⟨lists, r, hRun⟩
  exact ⟨lists.flatten, r, run_map_eq_some.mpr ⟨lists, hRun, rfl⟩⟩

------------------------------------------------------------
-- Beginnings of Clauses
------------------------------------------------------------

/- A character that is no stop. -/
def notStop (a : Char) : Bool :=
  !isStop a

theorem notStop_of_isDigit
    (a : Char)
    (hDigit : a.isDigit = true) :
    notStop a = true := by
  cases hStop : isStop a with
  | false => rw [notStop, hStop, Bool.not_false]
  | true =>
      simp only [isStop, Bool.or_eq_true, beq_iff_eq] at hStop
      rcases hStop with ((rfl | rfl) | rfl) | rfl
      all_goals exact absurd hDigit (by decide)

theorem starts_phrase
    {s : String}
    (hFirst : s.toList.head?.any notStop = true) :
    Starts notStop (phrase s) :=
  (starts_literal hFirst).padded (starts_blanks (by decide))

theorem starts_damage : Starts notStop Damage.parser :=
  (((starts_number notStop_of_isDigit).map.seq _).seq _).seq _

theorem starts_subject : Starts notStop subject := by
  apply Starts.padded _ (starts_blanks (by decide))
  apply Starts.seqLeft
  apply Starts.firstOf
  simp only [List.forall_mem_cons]
  exact
    ⟨starts_literal (by decide), starts_literal (by decide),
      starts_literal (by decide), by simp⟩

theorem starts_alternativeDamages :
    Starts notStop alternativeDamages :=
  ((starts_damage.seqLeft _).seqLeft _).map.seq _

theorem starts_damageClause : Starts notStop damageClause :=
  (starts_damage.separated rfl).map.seq _

theorem starts_savingThrowClause
    (vocabulary : Vocabulary) :
    Starts notStop (savingThrowClause vocabulary) := by
  have hMustMake : Starts notStop mustMakeClause :=
    ((((starts_phrase (by decide)).seqRight _).map).seq _).seq _
  exact hMustMake.orElse (starts_subject.map.seq _)

/- Only plain text is read where a stop comes first. -/
theorem run_clauses_of_stop
    (vocabulary : Vocabulary)
    {prose : Prose}
    {c : Cursor prose}
    (hNext : NotNext notStop c.ahead) :
    (firstOf (clauses vocabulary)).run c = textClause.run c := by
  have hVersatile : Starts notStop versatileClause :=
    ((starts_alternativeDamages.seqLeft _).seqLeft _).map
  have hMelee : Starts notStop meleeOrRangedClause :=
    (starts_damage.seqLeft _).map.seq _
  have hChanging : Starts notStop changingClause :=
    starts_alternativeDamages.map.seq _
  have hReplacement : Starts notStop replacementClause :=
    (((starts_phrase (by decide)).seqRight _).seqRight _).map
  have hIfTarget : Starts notStop (ifTargetClause vocabulary) :=
    (((starts_phrase (by decide)).seqRight _).seqLeft _).map.seq _
  have hSubject : Starts notStop (subjectClause vocabulary) :=
    starts_subject.map.seq _
  rw [clauses,
    run_firstOf_of_none _ (hVersatile.run_eq_none hNext),
    run_firstOf_of_none _ (hMelee.run_eq_none hNext),
    run_firstOf_of_none _ (hChanging.run_eq_none hNext),
    run_firstOf_of_none _ (hReplacement.run_eq_none hNext),
    run_firstOf_of_none _ (starts_damageClause.run_eq_none hNext),
    run_firstOf_of_none _
      ((starts_savingThrowClause vocabulary).run_eq_none hNext),
    run_firstOf_of_none _ (hIfTarget.run_eq_none hNext),
    run_firstOf_of_none _ (hSubject.run_eq_none hNext)]
  rw [firstOf, run_orElse]
  exact Option.or_none

end Effect

end CreatureProse
