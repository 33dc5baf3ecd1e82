import CreatureProse.Proofs.Reference.Mention
import CreatureProse.Proofs.Text.Occurs

/-
  Of a catalog only the names that occur in a text matter for the
  mentions in it. A name that is known but does not occur is
  never the longest one at a place, and takes no place from any
  other.

  Main declarations:
    * `Catalog.AgreeOn`
    * `Catalog.Mentions.congr`
    * `Catalog.allIn_congr`
-/

namespace CreatureProse.Catalog

variable {prose : Prose} {c r : Cursor prose}

/- Two catalogs know the same of all that occurs in a text. -/
def AgreeOn
    (text : String)
    (a b : Catalog) : Prop :=
  ∀ name, Occurs name text →
    a.names.get? name = b.names.get? name

/- A name that stands in a text occurs in it. -/
theorem StandsAt.occurs
    {name : String}
    (hStands : StandsAt name c r) :
    Occurs name prose.toString :=
  Cursor.occurs_of_ahead_eq hStands.text

section Knowledge

variable
  {known other : String → Option ItemKind}
  (hSame : ∀ name, Occurs name prose.toString →
    known name = other name)

include hSame

theorem Free.congr (hFree : Free known c) : Free other c := by
  intro name r hStands
  rw [← hSame name hStands.occurs]
  exact hFree name r hStands

theorem Longest.congr
    {name : String}
    {kind : ItemKind}
    (hLongest : Longest known c r name kind) :
    Longest other c r name kind where
  known := (hSame name hLongest.stands.occurs).symm.trans
    hLongest.known
  stands := hLongest.stands
  longest rival s hStands hKnown := by
    rw [← hSame rival hStands.occurs] at hKnown
    exact hLongest.longest rival s hStands hKnown

theorem Mentions.congr
    {as : List (Located ItemReference)}
    (hMentions : Mentions known c as) :
    Mentions other c as := by
  induction hMentions with
  | nil hFree => exact .nil fun d hLe => (hFree d hLe).congr hSame
  | cons hLe hFree hLongest hMore ih =>
      exact .cons hLe
        (fun d hFrom hTo => (hFree d hFrom hTo).congr hSame)
        (hLongest.congr hSame) ih

end Knowledge

/- The mentions depend on the names that occur in the text only. -/
theorem allIn_congr
    {a b : Catalog}
    (hSame : a.AgreeOn prose.toString b) :
    a.allIn prose = b.allIn prose := by
  have hMentions := b.allIn_eq_iff_mentions.mp
    (Eq.refl (b.allIn prose))
  rw [allIn_eq_iff_mentions]
  exact hMentions.congr fun name hOccurs =>
    (hSame name hOccurs).symm

end CreatureProse.Catalog
