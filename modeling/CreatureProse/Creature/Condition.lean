import CreatureProse.Ordered.Map
import CreatureProse.Tagged
import CreatureProse.Text.Case

/-
  This file defines the conditions that can befall a creature
  and the vocabularies of words that stand for them. A
  vocabulary can hold misspellings and synonyms beside the
  names.

  Key definitions include:
    * `Condition`
    * `Condition.ofName?`
    * `Vocabulary`
    * `Vocabulary.register`
    * `Vocabulary.lookup?`
    * `Vocabulary.standard`
-/

namespace CreatureProse

------------------------------------------------------------
-- Conditions
------------------------------------------------------------

/- A condition of a creature. -/
inductive Condition where
| blinded
| charmed
| deafened
| exhaustion
| frightened
| grappled
| incapacitated
| invisible
| paralyzed
| petrified
| poisoned
| prone
| restrained
| stunned
| unconscious
deriving DecidableEq, Repr, Inhabited

namespace Condition

/- The conditions in alphabetical order. -/
def all : List Condition :=
  [.blinded, .charmed, .deafened, .exhaustion, .frightened,
    .grappled, .incapacitated, .invisible, .paralyzed,
    .petrified, .poisoned, .prone, .restrained, .stunned,
    .unconscious]

/- The English name. -/
def name : Condition → String
| .blinded => "blinded"
| .charmed => "charmed"
| .deafened => "deafened"
| .exhaustion => "exhaustion"
| .frightened => "frightened"
| .grappled => "grappled"
| .incapacitated => "incapacitated"
| .invisible => "invisible"
| .paralyzed => "paralyzed"
| .petrified => "petrified"
| .poisoned => "poisoned"
| .prone => "prone"
| .restrained => "restrained"
| .stunned => "stunned"
| .unconscious => "unconscious"

instance : Tagged Condition where
  members := all
  tag := name

/- The condition with a name, in either case. -/
def ofName? (s : String) : Option Condition :=
  Tagged.ofTag? (Text.lowercase s)

end Condition

------------------------------------------------------------
-- Vocabularies
------------------------------------------------------------

/- Words that stand for conditions, in lower case. -/
structure Vocabulary where
  words : OrderedMap String Condition
deriving DecidableEq, Inhabited

namespace Vocabulary

/- The vocabulary without words. -/
def empty : Vocabulary where
  words := .empty

/- Let a word stand for a condition, in either case. -/
def register
    (v : Vocabulary)
    (word : String)
    (condition : Condition) : Vocabulary where
  words := v.words.insert (Text.lowercase word) condition

/- The condition that a word stands for, in either case. -/
def lookup?
    (v : Vocabulary)
    (word : String) : Option Condition :=
  v.words.get? (Text.lowercase word)

/- The number of words. -/
def size (v : Vocabulary) : Nat :=
  v.words.entries.length

/- The misspellings and synonyms found in print. -/
def aliases : List (String × Condition) :=
  [("poisioned", .poisoned), ("unconcious", .unconscious),
    ("fatigued", .exhaustion), ("paralysed", .paralyzed)]

/- The names of the conditions and their aliases. -/
def standard : Vocabulary :=
  ((Condition.all.map fun a => (a.name, a)) ++ aliases).foldl
    (fun v e => v.register e.1 e.2) empty

end Vocabulary

end CreatureProse
