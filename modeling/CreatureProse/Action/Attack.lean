import CreatureProse.Action.EffectGrammar

/-
  This file defines attacks and their grammar, such as
  Melee Weapon Attack: +4 to hit, reach 5 ft., one target. Hit:
  5 (1d6 + 2) slashing damage.

  Key definitions include:
    * `AttackRange`
    * `ConditionalHit`
    * `Attack`
    * `Attack.parser`
-/

namespace CreatureProse

open CreatureProse.Parser Clause

------------------------------------------------------------
-- Attacks
------------------------------------------------------------

/-
  How far an attack reaches, in feet: in melee, or up to a
  normal and perhaps a long range.
-/
inductive AttackRange where
| reach (feet : UInt32)
| range (normal : UInt32) (long : Option UInt32)
deriving DecidableEq, Repr, Inhabited

/- A bonus to hit under a condition. -/
structure ConditionalHit where
  modifier : Modifier
  condition : String
deriving DecidableEq, Repr, Inhabited

/- An action that is decided by an attack roll. -/
structure Attack where
  modifier : Modifier
  conditionalHits : List ConditionalHit
  ranges : List AttackRange
  effects : List Effect
deriving DecidableEq, Repr, Inhabited

------------------------------------------------------------
-- Bonuses to Hit
------------------------------------------------------------

/- What a bonus to hit is with, up to a comma or semicolon. -/
def ConditionalHit.withParser : Parser String :=
  (fun s => "with " ++ Text.trim s)
    <$> (blanks.optional *> literal "with"
          *> (character fun c =>
              c != ',' && c != ';').repeated1.textOf)

/- A bonus to hit and its condition, if one is told. -/
def ConditionalHit.parser : Parser ConditionalHit :=
  (fun n condition =>
    ⟨⟨n⟩, condition.getD "conditional"⟩)
    <$> (signedNumber <* blanks.optional <* literal "to hit")
    <*> ConditionalHit.withParser.optional

namespace Attack

/- The bonuses in brackets after the main one. -/
def conditionalHitsParser : Parser (List ConditionalHit) :=
  (fun s =>
    (ConditionalHit.parser.allIn (Prose.ofString s)).map
      Located.value) <$> remark

/- The bonus to hit and others in brackets after it. -/
def hitParser : Parser (Modifier × List ConditionalHit) :=
  (fun n more => (⟨n⟩, more.getD []))
    <$> (signedNumber <* (blanks *> literal "to hit").optional)
    <*> conditionalHitsParser.optional

------------------------------------------------------------
-- Ranges
------------------------------------------------------------

/- A reach, such as reach 5 ft. -/
def reachParser : Parser AttackRange :=
  .reach
    <$> (blanks.optional *> literal "reach " *> number
          <* blanks <* literal "ft.")

/- The long range after a normal one. -/
def longParser : Parser UInt32 :=
  blanks.optional *> char '/' *> blanks.optional *> number

/- A range, such as range 20/60 ft. -/
def rangeParser : Parser AttackRange :=
  .range
    <$> (blanks.optional *> literal "range " *> number)
    <*> (longParser.optional
          <* literal " ft" <* (literal ".").optional)

/- The commas and words between ranges. -/
def rangeSeparator : Parser Unit :=
  separators [literal ",", wholeWord "or"]

/- One or more reaches and ranges. -/
def rangesParser : Parser (List AttackRange) :=
  (separated (reachParser <|> rangeParser) rangeSeparator
    (pure ())).filter fun ranges => !ranges.isEmpty

------------------------------------------------------------
-- The Whole Attack
------------------------------------------------------------

/- All up to the first label of an attack. -/
def labelParser : Parser Unit :=
  ((firstOf [
      literal "weapon attack:",
      literal "spell attack:",
      literal "attack roll:"]).seek
    *> blanks.optional).as ()

/- The target, up to a full stop before a blank or the end. -/
def targetParser : Parser Unit :=
  (literal ","
    *> blanks.optional
    *> (literal "." *> (blanks.as () <|> atEnd)).seek).as ()

/- What happens on a hit, with or without the label. -/
def effectsParser (vocabulary : Vocabulary) : Parser (List Effect) :=
  blanks.optional
    *> (literal "hit:").optional
    *> blanks.optional
    *> Effect.listParser vocabulary

/- An attack, which needs at least one reach or range. -/
def parser (vocabulary : Vocabulary) : Parser Attack :=
  (fun hit ranges effects =>
    { modifier := hit.1
      conditionalHits := hit.2
      ranges
      effects })
    <$> (labelParser *> hitParser
          <* (literal "," *> blanks.optional).optional)
    <*> (rangesParser <* targetParser.optional)
    <*> effectsParser vocabulary

end Attack

end CreatureProse
