import CreatureProse.Action.Effect
import CreatureProse.Dice.Grammar
import CreatureProse.Text.Split

/-
  This file defines the grammar of what happens on a hit or on
  a failed save. At each place the forms of a clause are tried
  in a fixed order. Damage that goes on with a qualification is
  tried before plain damage, which would read the first half of
  it, and text of no known form is kept as it is.

  Key definitions include:
    * `Damage.parser`
    * `SavingThrow.parser`
    * `Effect.clauses`
    * `Effect.listParser`
-/

namespace CreatureProse

open CreatureProse.Parser

------------------------------------------------------------
-- Pieces of Clauses
------------------------------------------------------------

namespace Clause

/- The characters that are no text on their own. -/
def isStop (c : Char) : Bool :=
  c == '.' || c == ',' || c == ';' || c == ':'

/-
  What is left of a text without the blank space around it and
  then without the stops around that.
-/
def residue (s : String) : String :=
  String.ofList
    (Text.trimWhere isStop (Text.trimWhere Text.isBlank s.toList))

/- A text without the blank space around it, if any is left. -/
def nonBlank? (s : String) : Option String :=
  match Text.trim s with
  | "" => none
  | t => some t

/- The given text between optional blanks. -/
def phrase (s : String) : Parser String :=
  (literal s).padded blanks

/- The given whole word between optional blanks. -/
def spacedWord (s : String) : Parser String :=
  (wholeWord s).padded blanks

/- A full stop, or the end of the text. -/
def sentenceEnd : Parser Unit :=
  ((literal ".").as () <|> atEnd).padded blanks

/- The text up to the end of the sentence. -/
def sentence : Parser String :=
  Prod.fst <$> sentenceEnd.seek

/- The text up to the end of the sentence, unless it is blank. -/
def restOfSentence : Parser String :=
  sentence.filterMap nonBlank?

/- Text in brackets, the first of which may come after blanks. -/
def remark : Parser String :=
  blanks.optional *> char '(' *> Prod.fst <$> (char ')').seek

/- An ability by its name. -/
def abilityName : Parser Ability :=
  word.filterMap Ability.ofName?

/- A damage type by its name. -/
def damageTypeName : Parser DamageType :=
  word.filterMap DamageType.ofName?

/- A condition by one of the words for it. -/
def conditionName (vocabulary : Vocabulary) : Parser Condition :=
  word.filterMap vocabulary.lookup?

/- The target of an attack. -/
def theTarget : String :=
  "the target"

/- The one that something happens to. -/
def subject : Parser String :=
  (firstOf [
      literal theTarget,
      literal "the creature",
      literal "a swallowed creature"]
    <* wordEnd).padded blanks

/-
  The effect on a subject. Any other subject than the target is
  a circumstance of the effect.
-/
def onSubject
    (e : Effect)
    (subject : String) : Effect :=
  if subject = theTarget then e else e.when subject

/- One or more of the given separators between blanks. -/
def separators (marks : List (Parser String)) : Parser Unit :=
  ((firstOf marks).padded blanks).repeated1.as ()

end Clause

open Clause

------------------------------------------------------------
-- Damage and Saving Throws
------------------------------------------------------------

/- A roll in brackets after an average. -/
def Damage.diceParser : Parser DiceExpression :=
  blanks *> char '(' *> DiceExpression.parser <* char ')'

/- A damage type that may be chosen instead. -/
def Damage.alternativeParser : Parser DamageType :=
  blanks *> wholeWord "or" *> blanks *> damageTypeName

/- Damage, such as 7 (1d10 + 2) piercing damage. -/
def Damage.parser : Parser Damage :=
  (fun average dice damageType alternative =>
    { average, dice, damageType
      alternatives := alternative.toList })
    <$> number
    <*> Damage.diceParser.optional
    <*> (blanks *> damageTypeName)
    <*> (Damage.alternativeParser.optional
          <* blanks <* literal "damage")

/- Damages with commas and conjunctions between them. -/
def Damage.listParser : Parser (List Damage) :=
  (separated Damage.parser
    (separators [literal ",", wholeWord "and", wholeWord "plus"])
    (pure ())).filter fun damage => !damage.isEmpty

/- A save, such as dc 12 constitution saving throw. -/
def SavingThrow.parser : Parser SavingThrow :=
  (fun dc ability => .against ability dc)
    <$> (literal "dc " *> number <* blanks)
    <*> (abilityName <* blanks <* literal "saving throw")

namespace Effect

------------------------------------------------------------
-- Damage Clauses
------------------------------------------------------------

/- Damage, and a remark in brackets kept as text. -/
def damageClause : Parser (List Effect) :=
  (fun damage comment =>
    ofDamage damage
      :: (comment.map fun s => ofText ("(" ++ s ++ ")")).toList)
    <$> Damage.listParser
    <*> remark.optional

/- Two damages of which one or the other is dealt. -/
def alternativeDamages : Parser (Damage × Damage) :=
  (fun first second => (first, second))
    <$> (Damage.parser <* (phrase ",").optional <* spacedWord "or")
    <*> Damage.parser

/- Damage of a weapon that can be held in one or two hands. -/
def versatileClause : Parser (List Effect) :=
  (fun damage =>
    [(ofDamage [damage.1]).under
        { Conditions.none with grip := some .oneHanded },
      (ofDamage [damage.2]).under
        { Conditions.none with grip := some .twoHanded }])
    <$> (alternativeDamages
          <* phrase "if used with two hands"
          <* ((literal "in melee"
                <|> literal "to make a melee attack").padded
              blanks).optional)

/- Damage that differs in melee and at range. -/
def meleeOrRangedClause : Parser (List Effect) :=
  (fun melee ranged =>
    [(ofDamage [melee]).under
        { Conditions.none with attackType := some .melee },
      (ofDamage [ranged]).under
        { Conditions.none with attackType := some .ranged }])
    <$> (Damage.parser <* phrase "in melee or")
    <*> (Damage.parser <* phrase "at range")

/- The circumstances in which damage is known to change. -/
def knownCircumstances : List String :=
  ["with shillelagh or if wielded with two hands",
    "if the swarm has half of its hit points or fewer",
    "while enlarged",
    "in small or medium form",
    "with shillelagh",
    "if wielded with two hands"]

/- Damage, and other damage in a known circumstance. -/
def changingClause : Parser (List Effect) :=
  (fun damage circumstance =>
    [ofDamage [damage.1],
      (ofDamage [damage.2]).under
        { Conditions.none with other := some circumstance }])
    <$> alternativeDamages
    <*> (firstOf (knownCircumstances.map literal)).padded blanks

------------------------------------------------------------
-- Replacements
------------------------------------------------------------

/- A grapple in place of damage, with its remark. -/
def grappleInstead : Parser Effect :=
  (fun comment =>
    (ofCondition .grappled comment).replacingDamage)
    <$> ((phrase "grapple the target").ahead *> remark.optional)

/- Anything else in place of damage. -/
def otherInstead : Parser Effect :=
  (fun text => (ofText text).replacingDamage) <$> restOfSentence

/- What can be done instead of dealing damage. -/
def replacementClause : Parser (List Effect) :=
  (fun e => [e])
    <$> (phrase "instead of dealing damage"
          *> (phrase ",").optional
          *> (grappleInstead <|> otherInstead))

------------------------------------------------------------
-- What Happens to a Subject
------------------------------------------------------------

/- A comment after a condition. -/
def commentParser : Parser String :=
  char '(' *> Prod.fst <$> (char ')').seek
      <* sentenceEnd.seek
    <|> sentence

/- A condition after "has", with the rest of the sentence. -/
def hasCondition (vocabulary : Vocabulary) : Parser Effect :=
  (fun condition comment =>
    ofCondition condition (comment.bind nonBlank?))
    <$> (spacedWord "has"
          *> (phrase "the").optional
          *> (conditionName vocabulary).padded blanks
          <* spacedWord "condition")
    <*> sentence.optional

/- A condition after "is" or "becomes", with a comment. -/
def isCondition (vocabulary : Vocabulary) : Parser Effect :=
  (fun condition comment =>
    ofCondition condition (nonBlank? comment))
    <$> ((spacedWord "is" <|> spacedWord "becomes")
          *> (conditionName vocabulary).padded blanks)
    <*> commentParser

/- Damage after the given verb. -/
def takenDamage (verb : String) : Parser Effect :=
  (fun damage => ofDamage [damage])
    <$> (phrase verb *> Damage.parser)

/-
  What happens to a subject: damage, a condition, or the rest of
  the sentence as text.
-/
def predicate (vocabulary : Vocabulary) : Parser Effect :=
  firstOf [
    takenDamage "takes",
    hasCondition vocabulary,
    isCondition vocabulary,
    ofText <$> restOfSentence]

------------------------------------------------------------
-- Saving Throw Clauses
------------------------------------------------------------

/- The words after which a successful save halves damage. -/
def halfOnSuccess : Parser Unit :=
  ((literal ",").optional
    *> blanks.optional
    *> literal "or half as much damage on a successful one").as ()

/- A save against damage. -/
def mustMakeClause : Parser (List Effect) :=
  (fun save effects half =>
    let save :=
      if half.isSome then save.withSaveEffect .half else save
    effects.map fun e => e.onFailed save)
    <$> (phrase "the target must make a" *> SavingThrow.parser)
    <*> ((phrase ",").optional *> literal "taking " *> damageClause
          <* phrase "on a failed save")
    <*> halfOnSuccess.optional

/- What happens unless a save succeeds. -/
def failedOutcome (vocabulary : Vocabulary) : Parser Effect :=
  firstOf [
    takenDamage "take",
    (fun condition => ofCondition condition none)
      <$> (phrase "become" *> conditionName vocabulary),
    (literal "be knocked prone").as (ofCondition .prone none),
    ofText <$> restOfSentence]

/- A save and what happens unless it succeeds. -/
def mustSucceed
    (vocabulary : Vocabulary) : Parser (SavingThrow × Effect) :=
  (fun save e => (save, e.onFailed save))
    <$> (phrase "must succeed on a" *> SavingThrow.parser)
    <*> ((spacedWord "or").seek *> failedOutcome vocabulary)

/- What happens besides when a save fails by a margin. -/
def marginRider
    (vocabulary : Vocabulary) : Parser (UInt32 × Effect) :=
  (fun margin e => (margin, e))
    <$> ((phrase ".").optional
          *> phrase "if the saving throw fails by"
          *> number)
    <*> (phrase "or more" *> (phrase ",").optional *> subject
          *> predicate vocabulary)

/- The effect of failing a save by at least a margin. -/
def beyondMargin
    (save : SavingThrow)
    (margin : UInt32)
    (e : Effect) : Effect :=
  e.onFailed
    ((SavingThrow.against save.ability save.dc).withMargin margin)

/-
  A save that has to succeed, and what happens besides when it
  fails by a margin.
-/
def mustSucceedClause
    (vocabulary : Vocabulary) : Parser (List Effect) :=
  (fun (save, e) rider =>
    e :: (rider.map fun (margin, more) =>
      beyondMargin save margin more).toList)
    <$> mustSucceed vocabulary
    <*> (marginRider vocabulary).optional

/- The save of a subject against effects. -/
def savingThrowClause
    (vocabulary : Vocabulary) : Parser (List Effect) :=
  mustMakeClause
    <|> (fun who effects => effects.map fun e => onSubject e who)
          <$> subject
          <*> mustSucceedClause vocabulary

------------------------------------------------------------
-- Other Clauses
------------------------------------------------------------

/- A later mention of the target. -/
def pronoun : Parser String :=
  (firstOf [
      literal "it",
      literal theTarget,
      literal "the creature"]
    <* wordEnd).padded blanks

/- The first effect of a save that has to succeed. -/
def firstOfSave (vocabulary : Vocabulary) : Parser Effect :=
  (mustSucceedClause vocabulary).filterMap List.head?

/- What happens to a target of a certain kind. -/
def ifTargetClause
    (vocabulary : Vocabulary) : Parser (List Effect) :=
  (fun kind e => [e.when ("the target is " ++ Text.trim kind)])
    <$> (phrase "if the target is"
          *> Prod.fst <$> (phrase ",").seek <* pronoun)
    <*> (firstOfSave vocabulary <|> predicate vocabulary)

/- What happens to a subject. -/
def subjectClause
    (vocabulary : Vocabulary) : Parser (List Effect) :=
  (fun who e => [onSubject e who])
    <$> subject
    <*> predicate vocabulary

/- All that is left, kept as text. -/
def textClause : Parser (List Effect) :=
  Parser.rest.filterMap fun s =>
    match residue s with
    | "" => none
    | t => some [ofText t]

/- The forms of a clause in the order in which they are tried. -/
def clauses
    (vocabulary : Vocabulary) : List (Parser (List Effect)) :=
  [versatileClause,
    meleeOrRangedClause,
    changingClause,
    replacementClause,
    damageClause,
    savingThrowClause vocabulary,
    ifTargetClause vocabulary,
    subjectClause vocabulary,
    textClause]

/- Commas, conjunctions and full stops between clauses. -/
def clauseSeparator : Parser Unit :=
  separators
    [literal ",", wholeWord "and", wholeWord "plus", literal "."]

/- Clauses with separators between them. -/
def listParser (vocabulary : Vocabulary) : Parser (List Effect) :=
  List.flatten
    <$> separated (firstOf (clauses vocabulary)) clauseSeparator
          (pure ())

end Effect

end CreatureProse
