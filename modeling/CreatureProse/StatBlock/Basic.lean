import CreatureProse.Form.Reading
import CreatureProse.StatBlock.Readers

/-
  This file defines the stat block of a creature, as far as it
  consists of prose, and how its entries are brought up to date.

  Key definitions include:
    * `StatBlock`
    * `StatBlock.refreshed`
    * `StatBlock.countStale`
-/

namespace CreatureProse

/- A feature and what was read in it. -/
abbrev FeatureMemo :=
  Memo Feature FeatureReading

/- An action and what was read in it. -/
abbrev ActionMemo :=
  Memo CreatureAction ActionReading

/- Legendary actions and the text in front of them. -/
structure Legendary where
  description : Option String
  actions : List ActionMemo
deriving DecidableEq

/-
  Bring the legendary actions up to date, and tell how many of
  them were read.
-/
def Legendary.refreshed
    (l : Legendary)
    (reader : Reader CreatureAction ActionReading) :
    Legendary × Nat :=
  let actions := Memo.refreshedAll l.actions reader
  ({ l with actions := actions.1 }, actions.2)

/- The entries of a stat block. -/
structure StatBlock where
  features : List FeatureMemo
  actions : List ActionMemo
  reactions : List ActionMemo
  legendary : Option Legendary
deriving DecidableEq

namespace StatBlock

/- The stat block without entries. -/
def empty : StatBlock where
  features := []
  actions := []
  reactions := []
  legendary := none

/- The legendary actions, none if there is no such part. -/
def legendaryActions (b : StatBlock) : List ActionMemo :=
  match b.legendary with
  | some l => l.actions
  | none => []

/-
  Bring all entries up to date, and tell how many of them were
  read.
-/
def refreshed
    (b : StatBlock)
    (readers : Readers) : StatBlock × Nat :=
  let features := Memo.refreshedAll b.features readers.feature
  let actions := Memo.refreshedAll b.actions readers.action
  let reactions := Memo.refreshedAll b.reactions readers.action
  let legendary := b.legendary.map fun l =>
    l.refreshed readers.action
  ({ features := features.1
     actions := actions.1
     reactions := reactions.1
     legendary := legendary.map Prod.fst },
    features.2 + actions.2 + reactions.2
      + (legendary.map Prod.snd).getD 0)

/- Bring all entries up to date. -/
def refresh
    (b : StatBlock)
    (readers : Readers) : StatBlock :=
  (b.refreshed readers).1

/- The number of entries that would be read again. -/
def countStale
    (b : StatBlock)
    (readers : Readers) : Nat :=
  Memo.countStale b.features readers.feature
    + Memo.countStale b.actions readers.action
    + Memo.countStale b.reactions readers.action
    + Memo.countStale b.legendaryActions readers.action

end StatBlock

instance : Outlined Legendary where
  outline l := .record "Legendary"
    [("description", outline l.description),
      ("actions", outline l.actions)]

instance : Restorable Legendary where
  restore? p :=
    match allFields? ["description", "actions"] p with
    | some [description, actions] => do
      let description ← optional? description
      let actions ← required? actions
      return { description, actions }
    | _ => none

instance : Outlined StatBlock where
  outline b := .record "StatBlock"
    [("features", outline b.features),
      ("actions", outline b.actions),
      ("reactions", outline b.reactions),
      ("legendary", outline b.legendary)]

instance : Restorable StatBlock where
  restore? p :=
    match allFields?
      ["features", "actions", "reactions", "legendary"] p with
    | some [features, actions, reactions, legendary] => do
      let features ← required? features
      let actions ← required? actions
      let reactions ← required? reactions
      let legendary ← optional? legendary
      return { features, actions, reactions, legendary }
    | _ => none

end CreatureProse
