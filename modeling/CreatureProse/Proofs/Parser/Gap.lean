import CreatureProse.Proofs.Parser.Repeat
import CreatureProse.Proofs.Parser.Scan

/-
  Gaps: the passages of a text that do not go into the value of
  a parser when it reads from a position on. They are described
  along with the parser, part by part.

  Main declarations:
    * `Gap`
    * `Gap.whole`
    * `Gap.after`
    * `Gap.found`
    * `Gap.first`
    * `Gap.listed`
    * `Gap.Meets`
-/

namespace CreatureProse

open CreatureProse.Parser

/- Which spans are gaps when a text is read from a position on. -/
def Gap : Type :=
  (prose : Prose) → Cursor prose → Span → Prop

namespace Gap

variable {α β : Type}

/- No gap anywhere. -/
def nowhere : Gap :=
  fun _ _ _ => False

/- All that a parser reads. -/
def whole (p : Parser α) : Gap :=
  fun _ c s => ∃ a r, p.run c = some (a, r) ∧
    s = ⟨c.position, r.position⟩

/- The gaps that come after what a parser reads. -/
def after
    (p : Parser α)
    (gap : Gap) : Gap :=
  fun _ c s => ∃ a m, p.run c = some (a, m) ∧ gap _ m s

/- The gaps from the first place on that a search finds. -/
def found
    (p : Parser α)
    (gap : Gap) : Gap :=
  fun _ c s => ∃ m reply, p.seekFrom c = some (m, reply) ∧
    gap _ m s

/- The gaps of either of two parts. -/
def either (first second : Gap) : Gap :=
  fun _ c s => first _ c s ∨ second _ c s

/- The gaps of a parser, or else of another in its place. -/
def orElse
    (p : Parser α)
    (first second : Gap) : Gap :=
  fun _ c s => (∃ reply, p.run c = some reply) ∧ first _ c s ∨
    p.run c = none ∧ second _ c s

/- The gaps of the first parser that reads something. -/
def first : List (Parser α × Gap) → Gap
| [] => nowhere
| (p, gap) :: more => orElse p gap (first more)

/- The positions at which the elements of a list begin. -/
inductive ElementAt
    (element : Parser α)
    (separator : Parser β)
    {prose : Prose}
    (c : Cursor prose) : Cursor prose → Prop where
| first : ElementAt element separator c c
| next
    {m n k : Cursor prose}
    {a : α}
    {b : β}
    (hBefore : ElementAt element separator c m)
    (hElement : element.run m = some (a, n))
    (hSeparator : separator.run n = some (b, k)) :
    ElementAt element separator c k

/- The gaps of the elements of a list. -/
def listed
    (element : Parser α)
    (separator : Parser β)
    (gap : Gap) : Gap :=
  fun _ c s => ∃ m, ElementAt element separator c m ∧ gap _ m s

/- Some gap has a character in common with a passage. -/
def Meets
    (gap : Gap)
    {prose : Prose}
    (c x y : Cursor prose) : Prop :=
  ∃ s, gap prose c s ∧ s.overlaps ⟨x.position, y.position⟩ = true

/- An element after the first one begins in the rest of a list. -/
theorem ElementAt.of_rest
    {element : Parser α}
    {separator : Parser β}
    {prose : Prose}
    {c n k m : Cursor prose}
    {a : α}
    {b : β}
    (hElement : element.run c = some (a, n))
    (hSeparator : separator.run n = some (b, k))
    (hAt : ElementAt element separator k m) :
    ElementAt element separator c m := by
  induction hAt with
  | first => exact .next .first hElement hSeparator
  | next hBefore hOne hTwo ih => exact .next ih hOne hTwo

------------------------------------------------------------
-- Parts Without Gaps
------------------------------------------------------------

@[simp] theorem either_nowhere (gap : Gap) :
    either gap nowhere = gap := by
  funext prose c s
  exact propext (or_iff_left id)

@[simp] theorem nowhere_either (gap : Gap) :
    either nowhere gap = gap := by
  funext prose c s
  exact propext (or_iff_right id)

@[simp] theorem after_nowhere (p : Parser α) :
    after p nowhere = nowhere := by
  funext prose c s
  apply propext
  constructor
  · rintro ⟨a, m, -, hGap⟩
    exact hGap
  · exact False.elim

@[simp] theorem listed_nowhere
    (element : Parser α)
    (separator : Parser β) :
    listed element separator nowhere = nowhere := by
  funext prose c s
  apply propext
  constructor
  · rintro ⟨m, -, hGap⟩
    exact hGap
  · exact False.elim

end Gap

end CreatureProse
