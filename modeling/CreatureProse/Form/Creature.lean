import CreatureProse.StatLine.ArmorClass
import CreatureProse.StatLine.HitPoints
import CreatureProse.StatLine.ModifierList
import CreatureProse.StatLine.SpeedLine
import CreatureProse.StatLine.TypeLine
import CreatureProse.Form.Dice

/-
  This file defines the outlines of the lines of a stat block.

  Key definitions include:
    * `Outlined Alignment`
    * `Outlined TypeLine`
    * `Outlined ArmorClass`
    * `Outlined HitPoints`
-/

namespace CreatureProse

instance : Outlined CreatureSize where
  outline := outlineOfTag

instance : Outlined Moral where
  outline := outlineOfTag

instance : Outlined Ethic where
  outline := outlineOfTag

instance : Outlined MovementMode where
  outline := outlineOfTag

instance : Outlined Alignment where
  outline
  | .unaligned => .choice "unaligned" []
  | .any => .choice "any" []
  | .moral m => .choice "moral" [outline m]
  | .ethic e => .choice "ethic" [outline e]
  | .both m e => .choice "both" [outline m, outline e]

instance : Outlined TypeLine where
  outline line := .record "TypeLine"
    [("size", outline line.size),
      ("creature_type", outline line.creatureType),
      ("subtype", outline line.subtype),
      ("alignment", outline line.alignment)]

instance : Outlined ArmorClass where
  outline a := .record "ArmorClass"
    [("value", outline a.value),
      ("description", outline a.description)]

instance : Outlined HitPoints where
  outline hp := .record "HitPoints"
    [("value", outline hp.value),
      ("dice", outline hp.dice)]

end CreatureProse
