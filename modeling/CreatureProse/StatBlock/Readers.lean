import CreatureProse.Entry.Action
import CreatureProse.Entry.Feature
import CreatureProse.Failure
import CreatureProse.StatBlock.Memo

/-
  This file defines the readers of features and actions for one
  configuration, and how it is told which of them have changed
  since they were last used.

  Key definitions include:
    * `Readers`
    * `Readers.ofConfig`
    * `Readers.versions`
    * `Readers.versionOf`
    * `Readers.outdated`
-/

namespace CreatureProse

/- The stamp of readers of features. -/
def featureStamp : Stamp where
  reader := "CreatureFeatureDomainParser"
  version := "3"
  model := "1"

/- The stamp of readers of actions. -/
def actionStamp : Stamp where
  reader := "CreatureActionDomainParser"
  version := "4"
  model := "1"

/- Reads features; one in which nothing is found has no value. -/
def featureReader (config : Config) : Reader Feature FeatureReading where
  stamp := featureStamp
  read feature :=
    let reading := FeatureReading.ofFeature config feature
    if reading.isEmpty then none else some reading

/- Reads actions. -/
def actionReader
    (config : Config) : Reader CreatureAction ActionReading where
  stamp := actionStamp
  read := ActionReading.ofAction? config

/- A reader of features and one of actions. -/
structure Readers where
  feature : Reader Feature FeatureReading
  action : Reader CreatureAction ActionReading

namespace Readers

/- The readers for a configuration. -/
def ofConfig (config : Config) : Readers where
  feature := featureReader config
  action := actionReader config

/- The stamps of the readers. -/
def stamps (readers : Readers) : List Stamp :=
  [readers.feature.stamp, readers.action.stamp]

/- The versions of the readers by their names. -/
def versions (readers : Readers) : OrderedMap String String :=
  .ofList (readers.stamps.map fun s => (s.reader, s.version))

/- The version of the reader with the given name. -/
def versionOf
    (readers : Readers)
    (name : String) : Except Failure String :=
  match readers.stamps.find? fun s => s.reader == name with
  | some s => .ok s.version
  | none => .error (.other ("unknown domain parser: " ++ name))

/-
  The names of the readers that were not used last time at their
  present version.
-/
def outdated
    (readers : Readers)
    (lastUsed : OrderedMap String String) : List String :=
  (readers.stamps.filter fun s =>
    lastUsed.get? s.reader != some s.version).map Stamp.reader

end Readers

end CreatureProse
