import CreatureProse.Proofs.Action.Outcomes
import CreatureProse.Proofs.Parser.Agree
import CreatureProse.Proofs.Parser.Word
import CreatureProse.Proofs.Text.Occurs

/-
  Of a vocabulary only the words that occur in the text of an
  action matter. Two vocabularies that have the same meaning for
  each of them make every clause answer alike at every position,
  and so lead to the same action. A block of a saving throw is a
  text of its own, but it occurs in the whole text.

  Main declarations:
    * `Vocabulary.AgreeOn`
    * `Effect.agreeOn_listParser`
    * `SaveAction.blockEffects_congr`
    * `Action.ofText?_congr`
-/

namespace CreatureProse

open CreatureProse.Parser Clause

------------------------------------------------------------
-- Vocabularies
------------------------------------------------------------

/- Two vocabularies know the same of all that occurs in a text. -/
def Vocabulary.AgreeOn
    (text : String)
    (v w : Vocabulary) : Prop :=
  ∀ word, Occurs word text → v.lookup? word = w.lookup? word

theorem Vocabulary.AgreeOn.mono
    {part text : String}
    {v w : Vocabulary}
    (hSame : AgreeOn text v w)
    (hOccurs : Occurs part text) :
    AgreeOn part v w :=
  fun word hWord => hSame word (hWord.trans hOccurs)

variable {prose : Prose} {v w : Vocabulary}

------------------------------------------------------------
-- Clauses
------------------------------------------------------------

/- A word that is looked up occurs in the text. -/
theorem Clause.agreeOn_conditionName
    (hSame : v.AgreeOn prose.toString w) :
    AgreeOn prose (conditionName v) (conditionName w) := by
  apply agreeOn_filterMap
  intro c r word hRun
  have hAhead := (run_word_eq_some.mp hRun).2.2.1
  exact hSame word (Cursor.occurs_of_ahead_eq hAhead)

namespace Effect

theorem agreeOn_hasCondition
    (hSame : v.AgreeOn prose.toString w) :
    AgreeOn prose (hasCondition v) (hasCondition w) :=
  ((agreeOn_conditionName hSame).padded.seqRight.seqLeft.map _).seq
    (.refl _)

theorem agreeOn_isCondition
    (hSame : v.AgreeOn prose.toString w) :
    AgreeOn prose (isCondition v) (isCondition w) :=
  ((agreeOn_conditionName hSame).padded.seqRight.map _).seq (.refl _)

theorem agreeOn_predicate
    (hSame : v.AgreeOn prose.toString w) :
    AgreeOn prose (predicate v) (predicate w) :=
  .firstOf
    (.cons (.refl _)
      (.cons (agreeOn_hasCondition hSame)
        (.cons (agreeOn_isCondition hSame)
          (.cons (.refl _) .nil))))

theorem agreeOn_failedOutcome
    (hSame : v.AgreeOn prose.toString w) :
    AgreeOn prose (failedOutcome v) (failedOutcome w) :=
  .firstOf
    (.cons (.refl _)
      (.cons ((agreeOn_conditionName hSame).seqRight.map _)
        (.cons (.refl _) (.cons (.refl _) .nil))))

theorem agreeOn_mustSucceedClause
    (hSame : v.AgreeOn prose.toString w) :
    AgreeOn prose (mustSucceedClause v) (mustSucceedClause w) := by
  have hSave : AgreeOn prose (mustSucceed v) (mustSucceed w) :=
    (AgreeOn.refl _).seq (agreeOn_failedOutcome hSame).seqRight
  have hRider : AgreeOn prose (marginRider v) (marginRider w) :=
    (AgreeOn.refl _).seq (agreeOn_predicate hSame).seqRight
  exact (hSave.map _).seq hRider.optional

theorem agreeOn_savingThrowClause
    (hSame : v.AgreeOn prose.toString w) :
    AgreeOn prose (savingThrowClause v) (savingThrowClause w) :=
  (AgreeOn.refl _).orElse
    ((AgreeOn.refl _).seq (agreeOn_mustSucceedClause hSame))

theorem agreeOn_ifTargetClause
    (hSame : v.AgreeOn prose.toString w) :
    AgreeOn prose (ifTargetClause v) (ifTargetClause w) := by
  have hFirst : AgreeOn prose (firstOfSave v) (firstOfSave w) :=
    (agreeOn_mustSucceedClause hSame).filterMap _
  exact (AgreeOn.refl _).seq
    (hFirst.orElse (agreeOn_predicate hSame))

theorem agreeOn_subjectClause
    (hSame : v.AgreeOn prose.toString w) :
    AgreeOn prose (subjectClause v) (subjectClause w) :=
  (AgreeOn.refl _).seq (agreeOn_predicate hSame)

/- Three of the forms of a clause have conditions in them. -/
theorem agreeOn_clauses
    (hSame : v.AgreeOn prose.toString w) :
    List.Forall₂ (AgreeOn prose) (clauses v) (clauses w) :=
  .cons (.refl _) <| .cons (.refl _) <| .cons (.refl _) <|
    .cons (.refl _) <| .cons (.refl _) <|
    .cons (agreeOn_savingThrowClause hSame) <|
    .cons (agreeOn_ifTargetClause hSame) <|
    .cons (agreeOn_subjectClause hSame) <| .cons (.refl _) .nil

theorem agreeOn_listParser
    (hSame : v.AgreeOn prose.toString w) :
    AgreeOn prose (listParser v) (listParser w) :=
  (AgreeOn.firstOf (agreeOn_clauses hSame)).separated.map _

end Effect

------------------------------------------------------------
-- Attacks
------------------------------------------------------------

theorem Attack.agreeOn_parser
    (hSame : v.AgreeOn prose.toString w) :
    AgreeOn prose (Attack.parser v) (Attack.parser w) :=
  (AgreeOn.refl _).seq (Effect.agreeOn_listParser hSame).seqRight

------------------------------------------------------------
-- Saving Throws
------------------------------------------------------------

namespace SaveAction

theorem untiedEffects_congr
    {block : String}
    (hSame : v.AgreeOn block w) :
    untiedEffects v block = untiedEffects w block := by
  have hList :
      AgreeOn (Prose.ofString block) (Effect.listParser v)
        (Effect.listParser w) := by
    apply Effect.agreeOn_listParser
    rwa [Prose.toString_ofString]
  rw [untiedEffects, untiedEffects, hList.parse?_eq]

theorem blockEffects_congr
    {block : String}
    (hSame : v.AgreeOn block w)
    (save : SavingThrow) :
    blockEffects v save block = blockEffects w save block := by
  have hTrim := untiedEffects_congr (hSame.mono (occurs_trim block))
  unfold blockEffects
  generalize Text.trim block = s at hTrim ⊢
  split
  · rfl
  · rw [hTrim]

/- The text of a block is cut out of the body. -/
theorem occurs_of_mem_blocks
    {body : Prose}
    {part : OutcomeKind × String}
    (hMem : part ∈ blocks body (labels body)) :
    Occurs part.2 body.toString := by
  rw [blocks_eq, List.mem_map] at hMem
  rcases hMem with ⟨cut, -, rfl⟩
  exact body.occurs_slice _ _

theorem outcomesIn_congr
    {body : Prose}
    (hSame : v.AgreeOn body.toString w)
    (save : SavingThrow) :
    outcomesIn v save body = outcomesIn w save body := by
  apply List.filterMap_congr
  intro part hMem
  have hBlock := hSame.mono (occurs_of_mem_blocks hMem)
  dsimp only
  rw [blockEffects_congr hBlock]

theorem ofProse?_congr
    (hSame : v.AgreeOn prose.toString w) :
    ofProse? v prose = ofProse? w prose := by
  unfold ofProse?
  cases hHeader : headerParser.parse? prose with
  | none => rfl
  | some reply =>
      obtain ⟨⟨save, target⟩, rest⟩ := reply
      rcases Option.map_eq_some_iff.mp hHeader with
        ⟨⟨header, c⟩, -, hEq⟩
      cases hEq
      have hBody :
          v.AgreeOn (Prose.ofString (Text.trim c.rest)).toString
            w := by
        rw [Prose.toString_ofString]
        exact hSame.mono ((occurs_trim c.rest).trans c.occurs_rest)
      dsimp only
      rw [outcomesIn_congr hBody]

end SaveAction

------------------------------------------------------------
-- Actions
------------------------------------------------------------

/- The action depends on the words that occur in the text only. -/
theorem Action.ofText?_congr
    {text : String}
    (hSame : v.AgreeOn (Prose.folded text).toString w) :
    ofText? v text = ofText? w text := by
  unfold ofText?
  dsimp only
  rw [(Attack.agreeOn_parser hSame).parse?_eq,
    SaveAction.ofProse?_congr hSame]

end CreatureProse
