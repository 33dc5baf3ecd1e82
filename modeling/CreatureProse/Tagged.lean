/-
  This file defines the types with finitely many members, each
  of which goes by a tag of its own.

  Key definitions include:
    * `Tagged`
    * `Tagged.ofTag?`
-/

namespace CreatureProse

/-
  A type given by its members in order and their tags. A tag is
  written in small letters, with a capital where a further word
  begins.
-/
class Tagged (α : Type) where
  members : List α
  tag : α → String

/- The member with the given tag. -/
def Tagged.ofTag?
    {α : Type}
    [Tagged α]
    (tag : String) : Option α :=
  (Tagged.members : List α).find? fun a => Tagged.tag a == tag

end CreatureProse
