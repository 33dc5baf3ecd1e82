import CreatureProse.Action.Attack
import CreatureProse.Proofs.Action.Clauses

/-
  The lists in the grammar of actions come to an end: the
  clauses of effects, the damages of one clause and the ranges
  of an attack. Whatever the vocabulary, every form of a clause
  reads at least one character, and so do all separators.

  Main declarations:
    * `Effect.consumes_of_mem_clauses`
    * `Attack.consumes_ranges`
    * `Action.lists_move_on`
-/

namespace CreatureProse

open CreatureProse.Parser Clause

------------------------------------------------------------
-- Pieces of Clauses
------------------------------------------------------------

namespace Clause

theorem consumes_phrase
    {s : String}
    (hNe : s.toList ≠ []) :
    Consumes (phrase s) :=
  (consumes_literal hNe).padded blanks

theorem consumes_subject : Consumes subject := by
  apply Consumes.padded _ blanks
  apply Consumes.seqLeft _ wordEnd
  apply Consumes.firstOf
  simp only [List.forall_mem_cons]
  exact
    ⟨consumes_literal (by decide), consumes_literal (by decide),
      consumes_literal (by decide), by simp⟩

end Clause

theorem Damage.consumes_parser : Consumes Damage.parser := by
  unfold Damage.parser Damage.diceParser Damage.alternativeParser
  exact ((consumes_number.map.seq _).seq _).seq _

------------------------------------------------------------
-- Forms of Clauses
------------------------------------------------------------

namespace Effect

theorem consumes_alternativeDamages :
    Consumes alternativeDamages := by
  unfold alternativeDamages
  exact
    ((Damage.consumes_parser.seqLeft _).seqLeft _).map.seq _

theorem consumes_damageClause : Consumes damageClause := by
  unfold damageClause Damage.listParser
  exact (Damage.consumes_parser.separated rfl).map.seq _

theorem consumes_savingThrowClause
    (vocabulary : Vocabulary) :
    Consumes (savingThrowClause vocabulary) := by
  have hMustMake : Consumes mustMakeClause := by
    unfold mustMakeClause halfOnSuccess
    exact
      ((((consumes_phrase (by decide)).seqRight _).map).seq _).seq
        _
  exact hMustMake.orElse (consumes_subject.map.seq _)

/- Text of which nothing is left is not kept. -/
theorem consumes_textClause : Consumes textClause := by
  constructor
  intro prose c r effects hRun
  rcases run_filterMap_eq_some.mp hRun with ⟨s, hRest, hKept⟩
  rcases run_rest_eq_some.mp hRest with ⟨rfl, rfl⟩
  rcases Nat.lt_or_ge c.position prose.size with hLt | hGe
  · exact hLt
  · have hStop : c = Cursor.stop prose :=
      Cursor.eq_of_position_eq (Nat.le_antisymm c.position_le hGe)
    rw [hStop, Cursor.rest_stop] at hKept
    cases hKept

theorem consumes_of_mem_clauses
    {vocabulary : Vocabulary}
    {p : Parser (List Effect)}
    (hp : p ∈ clauses vocabulary) :
    Consumes p := by
  revert p
  simp only [clauses, List.forall_mem_cons]
  refine
    ⟨?_, ?_, ?_, ?_, consumes_damageClause,
      consumes_savingThrowClause vocabulary, ?_,
      consumes_subject.map.seq _, consumes_textClause,
      List.forall_mem_nil _⟩
  · unfold versatileClause
    exact
      ((consumes_alternativeDamages.seqLeft _).seqLeft _).map
  · unfold meleeOrRangedClause
    exact (Damage.consumes_parser.seqLeft _).map.seq _
  · unfold changingClause knownCircumstances
    simp only [List.map_cons, List.map_nil]
    exact consumes_alternativeDamages.map.seq _
  · unfold replacementClause grappleInstead otherInstead
    exact
      (((consumes_phrase (by decide)).seqRight _).seqRight _).map
  · unfold ifTargetClause firstOfSave
    exact
      (((consumes_phrase (by decide)).seqRight _).seqLeft
        _).map.seq _

end Effect

------------------------------------------------------------
-- Ranges
------------------------------------------------------------

namespace Attack

theorem consumes_ranges :
    Consumes (reachParser <|> rangeParser) := by
  apply Consumes.orElse
  · unfold reachParser
    exact
      (((((consumes_literal (by decide)).after _).seqRight
        _).seqLeft _).seqLeft _).map
  · unfold rangeParser longParser
    exact
      (((consumes_literal (by decide)).after _).seqRight
        _).map.seq _

end Attack

------------------------------------------------------------
-- All Lists
------------------------------------------------------------

/-
  Every form of a clause reads at least one character wherever
  it is read, the text that is kept as it is too. The clauses of
  effects, the damages of a clause and the ranges of an attack
  move ahead with each element and with each separator, and from
  a position on they are read in at most one round more than
  there are characters left.
-/
theorem Action.lists_move_on
    (vocabulary : Vocabulary) :
    (∀ p ∈ Effect.clauses vocabulary, Consumes p) ∧
      MovesOn (firstOf (Effect.clauses vocabulary))
        Effect.clauseSeparator ∧
      MovesOn Damage.parser
        (separators
          [literal ",", wholeWord "and", wholeWord "plus"]) ∧
      MovesOn (Attack.reachParser <|> Attack.rangeParser)
        Attack.rangeSeparator := by
  have hClauses :
      ∀ p ∈ Effect.clauses vocabulary, Consumes p :=
    fun _ => Effect.consumes_of_mem_clauses
  exact
    ⟨hClauses,
      .of_consumes (Consumes.firstOf hClauses)
        consumes_separators,
      .of_consumes Damage.consumes_parser consumes_separators,
      .of_consumes Attack.consumes_ranges consumes_separators⟩

/-
  The text that is kept as it is moves ahead, and the clauses
  and damages of "7 fire damage, or none" need few rounds.
-/
theorem Action.lists_move_on_fireDamage :
    let c := Cursor.start (Prose.ofString "7 fire damage, or none")
    let vocabulary := Vocabulary.standard
    Effect.textClause ∈ Effect.clauses vocabulary ∧
      Consumes Effect.textClause ∧
      EndsBy (firstOf (Effect.clauses vocabulary))
        Effect.clauseSeparator c 23 ∧
      EndsBy Damage.parser
        (separators
          [literal ",", wholeWord "and", wholeWord "plus"]) c
        23 := by
  intro c vocabulary
  have hMember : Effect.textClause ∈ Effect.clauses vocabulary := by
    simp [Effect.clauses]
  have hRounds : c.remaining + 1 = 23 := by decide
  rcases lists_move_on vocabulary with
    ⟨hConsumes, hClauses, hDamages, -⟩
  rw [← hRounds]
  exact
    ⟨hMember, hConsumes _ hMember, hClauses.endsBy c,
      hDamages.endsBy c⟩

end CreatureProse
