import CreatureProse.Action.EffectGrammar

/-
  This file defines the actions that are decided by a saving
  throw and their grammar, such as Dexterity Saving Throw: DC
  18, each creature in a line. Failure: 54 (12d8) acid damage.
  Success: Half damage. The body is cut at the labels of its
  outcomes, and each piece is read as a text of its own.

  Key definitions include:
    * `OutcomeKind`
    * `Outcome`
    * `SaveAction`
    * `SaveAction.headerParser`
    * `SaveAction.outcomesIn`
    * `SaveAction.ofProse?`
-/

namespace CreatureProse

open CreatureProse.Parser Clause

------------------------------------------------------------
-- Outcomes
------------------------------------------------------------

/- Which result of a save is meant. -/
inductive OutcomeKind where
| failure
| success
| failureOrSuccess
| firstFailure
| secondFailure
deriving DecidableEq, Repr, Inhabited

instance : Tagged OutcomeKind where
  members :=
    [.failure, .success, .failureOrSuccess, .firstFailure,
      .secondFailure]
  tag
  | .failure => "failure"
  | .success => "success"
  | .failureOrSuccess => "failureOrSuccess"
  | .firstFailure => "firstFailure"
  | .secondFailure => "secondFailure"

/- A result of a save and what happens on it. -/
structure Outcome where
  kind : OutcomeKind
  effects : List Effect
deriving DecidableEq, Repr, Inhabited

/- An action that is decided by a saving throw. -/
structure SaveAction where
  save : SavingThrow
  target : Option String
  outcomes : List Outcome
deriving DecidableEq, Repr, Inhabited

namespace SaveAction

------------------------------------------------------------
-- Header and Labels
------------------------------------------------------------

/- The text up to a full stop, which must not be the first. -/
def targetParser : Parser String :=
  (Prod.fst <$> (char '.' *> blanks.optional).seek).filter
    fun s => s != ""

/- The save and who has to make it. -/
def headerParser : Parser (SavingThrow × String) :=
  (fun ability dc target => (.against ability dc, target))
    <$> (abilityName <* blanks <* literal "saving throw:"
          <* blanks.optional <* literal "dc" <* blanks)
    <*> number
    <*> (literal "," *> blanks.optional *> targetParser)

/- The label of an outcome, with its colon. -/
def labelParser : Parser OutcomeKind :=
  wordStart
    *> firstOf [
      (literal "failure or success").as .failureOrSuccess,
      (literal "first failure").as .firstFailure,
      (literal "second failure").as .secondFailure,
      (literal "failure").as .failure,
      (literal "success").as .success]
    <* blanks.optional <* char ':' <* blanks.optional

/- The labels in a body, from left to right. -/
def labels (body : Prose) : List (Located OutcomeKind) :=
  labelParser.allIn body

/-
  The labels with the text that belongs to each: from its end up
  to the next label, or to the end of the body.
-/
def blocks
    (body : Prose) :
    List (Located OutcomeKind) → List (OutcomeKind × String)
| [] => []
| [last] =>
  [(last.value, body.slice last.span.stop body.size)]
| label :: next :: more =>
  (label.value, body.slice label.span.stop next.span.start)
    :: blocks body (next :: more)

------------------------------------------------------------
-- Riders
------------------------------------------------------------

/-
  The text of an effect that is only text and tells when the
  effect before it ends.
-/
def rider? (e : Effect) : Option String :=
  if e.damage.isEmpty && e.condition.isNone
      && e.conditions.isEmpty && !e.replacesDamage then
    e.other.filter fun s =>
      Text.startsWith "this effect ends" (Text.lowercase s)
  else
    none

/- A comment with a rider after it. -/
def withRider
    (rider : String) : Option String → String
| none => rider
| some "" => rider
| some comment => comment ++ ". " ++ rider

/-
  Put the riders into the comments of the conditions right
  before them; `merged` holds the earlier effects in reverse.
-/
def mergeRidersInto
    (merged : List Effect) : List Effect → List Effect
| [] => merged.reverse
| e :: more =>
  match rider? e, merged with
  | some rider, last :: before =>
    match last.condition with
    | some applied =>
      let comment := withRider rider applied.comment
      let last :=
        { last with
          condition := some { applied with comment } }
      mergeRidersInto (last :: before) more
    | none => mergeRidersInto (e :: merged) more
  | _, _ => mergeRidersInto (e :: merged) more

/- Put each rider into the comment of the condition before it. -/
def mergeRiders (effects : List Effect) : List Effect :=
  mergeRidersInto [] effects

------------------------------------------------------------
-- The Whole Action
------------------------------------------------------------

/- The effects of a block, before they are tied to the save. -/
def untiedEffects
    (vocabulary : Vocabulary)
    (block : String) : List Effect :=
  match (Effect.listParser vocabulary).parse?
      (Prose.ofString block) with
  | some (e :: more, left) =>
    let trailing :=
      match residue left with
      | "" => []
      | s => [Effect.ofText s]
    mergeRiders (e :: more ++ trailing)
  | _ =>
    match residue block with
    | "" => []
    | s => [Effect.ofText s]

/- The effects of a block on the given save. -/
def blockEffects
    (vocabulary : Vocabulary)
    (save : SavingThrow)
    (block : String) : List Effect :=
  match Text.trim block with
  | "" => []
  | s => (untiedEffects vocabulary s).map fun e => e.onFailed save

/- The outcomes of a body that have an effect. -/
def outcomesIn
    (vocabulary : Vocabulary)
    (save : SavingThrow)
    (body : Prose) : List Outcome :=
  (blocks body (labels body)).filterMap fun (kind, block) =>
    match blockEffects vocabulary save block with
    | [] => none
    | effects => some ⟨kind, effects⟩

/-
  The action that a folded text describes. There must be a body
  after the header, and an outcome in it.
-/
def ofProse?
    (vocabulary : Vocabulary)
    (prose : Prose) : Option SaveAction :=
  match headerParser.parse? prose with
  | none => none
  | some ((save, target), rest) =>
    let body := Prose.ofString (Text.trim rest)
    match outcomesIn vocabulary save body with
    | [] => none
    | outcomes => some { save, target := nonBlank? target, outcomes }

end SaveAction

end CreatureProse
