import CreatureProse.Action.Attack
import CreatureProse.Action.Basic
import CreatureProse.Action.Effect
import CreatureProse.Action.EffectGrammar
import CreatureProse.Action.Save
import CreatureProse.Creature.Ability
import CreatureProse.Creature.Alignment
import CreatureProse.Creature.Condition
import CreatureProse.Creature.DamageType
import CreatureProse.Creature.Size
import CreatureProse.Creature.Speed
import CreatureProse.Dice.Expression
import CreatureProse.Dice.Grammar
import CreatureProse.Entry.Action
import CreatureProse.Entry.Annotation
import CreatureProse.Entry.Config
import CreatureProse.Entry.Feature
import CreatureProse.Explorer.Command
import CreatureProse.Explorer.CommandLine
import CreatureProse.Explorer.Script
import CreatureProse.Explorer.Session
import CreatureProse.Failure
import CreatureProse.Form.Action
import CreatureProse.Form.Creature
import CreatureProse.Form.Dice
import CreatureProse.Form.Reading
import CreatureProse.LimitedUse.Basic
import CreatureProse.LimitedUse.Grammar
import CreatureProse.Main
import CreatureProse.Ordered.Map
import CreatureProse.Ordered.Set
import CreatureProse.Outline.Basic
import CreatureProse.Outline.Display
import CreatureProse.Parser.Basic
import CreatureProse.Parser.Character
import CreatureProse.Parser.Repeat
import CreatureProse.Parser.Scan
import CreatureProse.Prose.Cursor
import CreatureProse.Reference.Basic
import CreatureProse.Reference.Catalog
import CreatureProse.Span
import CreatureProse.Spellcasting.Basic
import CreatureProse.Spellcasting.Grammar
import CreatureProse.StatBlock.Basic
import CreatureProse.StatBlock.Memo
import CreatureProse.StatBlock.Readers
import CreatureProse.StatBlock.Resource
import CreatureProse.StatLine.ArmorClass
import CreatureProse.StatLine.HitPoints
import CreatureProse.StatLine.ModifierList
import CreatureProse.StatLine.SpeedLine
import CreatureProse.StatLine.TypeLine
import CreatureProse.Storage.MessagePack
import CreatureProse.Storage.Part
import CreatureProse.Storage.Restore
import CreatureProse.Storage.Value
import CreatureProse.Tagged
import CreatureProse.Text.Alphabetic
import CreatureProse.Text.Case
import CreatureProse.Text.Cased
import CreatureProse.Text.CharTable
import CreatureProse.Text.Decimal
import CreatureProse.Text.English
import CreatureProse.Text.Letter
import CreatureProse.Text.Lowercase
import CreatureProse.Text.Numeric
import CreatureProse.Text.Quoted
import CreatureProse.Text.Split
import CreatureProse.Text.Unprintable
import CreatureProse.Proofs.StatBlock.Memo
import CreatureProse.Proofs.Form.Action
import CreatureProse.Proofs.Form.Reading
import CreatureProse.Proofs.StatBlock.Readers
import CreatureProse.Proofs.StatBlock.Storage
import CreatureProse.Proofs.Dice.Grammar
import CreatureProse.Proofs.Entry.Provenance
import CreatureProse.Proofs.Parser.Plan
import CreatureProse.Proofs.Parser.Locality
import CreatureProse.Proofs.Action.Shape
import CreatureProse.Proofs.Action.AttackAccount
import CreatureProse.Proofs.StatBlock.Resource
import CreatureProse.Proofs.Action.Gate
import CreatureProse.Proofs.Action.Header
import CreatureProse.Proofs.Action.Outcomes
import CreatureProse.Proofs.StatLine.SpeedLine
import CreatureProse.Proofs.Spellcasting.WrittenLists
import CreatureProse.Proofs.Action.Wording
import CreatureProse.Proofs.Dice.Grouping
import CreatureProse.Proofs.Dice.Consistency
import CreatureProse.Proofs.Dice.Inside
import CreatureProse.Proofs.StatBlock.SpellGroup
import CreatureProse.Proofs.LimitedUse.DailyAmount
import CreatureProse.Proofs.Reference.Registration
import CreatureProse.Proofs.Entry.Unmentioned
import CreatureProse.Proofs.LimitedUse.RechargeFaces
import CreatureProse.Proofs.LimitedUse.Displayed
import CreatureProse.Proofs.StatLine.ModifierList
import CreatureProse.Proofs.StatLine.TypeLine
import CreatureProse.Proofs.Parser.Rounds
import CreatureProse.Proofs.Parser.Greedy
import CreatureProse.Proofs.Explorer.Script
import CreatureProse.Proofs.Action.MovesOn
