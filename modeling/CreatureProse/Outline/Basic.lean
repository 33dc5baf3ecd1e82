import CreatureProse.Tagged

/-
  This file defines outlines, which tell how a value is put
  together. Both the form in which a value is stored and the
  form in which it is shown are read off its outline.

  Key definitions include:
    * `Outline`
    * `Outlined`
-/

namespace CreatureProse

/-
  How a value is put together. A choice is a member of a type
  with several forms, given by its tag.
-/
inductive Outline where
| flag (b : Bool)
| number (n : Int)
| text (s : String)
| absent
| present (o : Outline)
| list (items : List Outline)
| set (items : List Outline)
| mapping (entries : List (Outline × Outline))
| record (name : String) (fields : List (String × Outline))
| wrapped (name : String) (o : Outline)
| choice (tag : String) (items : List Outline)
| choiceRecord (tag : String) (fields : List (String × Outline))
deriving Inhabited

/- A type whose values have outlines. -/
class Outlined (α : Type) where
  outline : α → Outline

export Outlined (outline)

------------------------------------------------------------
-- Outlines of General Types
------------------------------------------------------------

instance : Outlined Bool where
  outline := .flag

instance : Outlined Nat where
  outline n := .number n

instance : Outlined UInt32 where
  outline n := .number n.toNat

instance : Outlined Int32 where
  outline n := .number n.toInt

instance : Outlined String where
  outline := .text

instance {α : Type} [Outlined α] : Outlined (Option α) where
  outline
  | none => .absent
  | some a => .present (outline a)

instance {α : Type} [Outlined α] : Outlined (List α) where
  outline as := .list (as.map outline)

/- The outline of a member with nothing but a tag. -/
def outlineOfTag
    {α : Type}
    [Tagged α]
    (a : α) : Outline :=
  .choice (Tagged.tag a) []

end CreatureProse
