import CreatureProse.LimitedUse.Basic
import CreatureProse.Parser.Character
import CreatureProse.Parser.Scan

/-
  This file defines the grammar of usage limits in names, such
  as 3/Day, Recharge 5-6 and Recharges after a Long Rest.

  Key definitions include:
    * `LimitedUse.perDayParser`
    * `LimitedUse.parser`
    * `LimitedUse.inName?`
-/

namespace CreatureProse.LimitedUse

open CreatureProse.Parser

/-
  The faces from one number to another, whichever of them is
  written first.
-/
def facesBetween (a b : UInt32) : OrderedSet UInt32 :=
  let low := min a.toNat b.toNat
  let high := max a.toNat b.toNat
  OrderedSet.ofList
    ((List.range' low (high + 1 - low)).map UInt32.ofNat)

/-
  A number of uses each day, and whether they are meant for each
  of several abilities.
-/
def perDayParser : Parser (UInt32 × Bool) :=
  (fun amount each => (amount, each.isSome))
    <$> (number <* (char 'e').optional <* literal "/day")
    <*> (literal " each").optional

/- A recharge on one face or on a range of faces. -/
def rechargeParser : Parser LimitedUse :=
  (fun first last => rechargeOn (facesBetween (first.getD last) last))
    <$> (literal "recharge " *> (number <* oneOf "-–").optional)
    <*> number

/- The usage limits in lower case. -/
def parser : Parser LimitedUse :=
  firstOf [
    (fun limit => perDay limit.1) <$> perDayParser,
    rechargeParser,
    (literal "recharges after a short or long rest").as
      (perRest true true),
    (literal "recharges after a short rest").as
      (perRest true false),
    (literal "recharges after a long rest").as
      (perRest false true)]

/- The first usage limit ahead and where it is. -/
def nextParser : Parser (Located LimitedUse) :=
  parser.located.ahead

/-
  The first usage limit in a name. Its span does not take in the
  brackets around it.
-/
def inName? (name : String) : Option (Located LimitedUse) :=
  nextParser.value? (Prose.folded name)

end CreatureProse.LimitedUse
