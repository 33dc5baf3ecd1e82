import CreatureProse.Proofs.Parser.Rounds

/-
  Parsers that read at least one character wherever they answer.
  One such part of a sequence is enough. A list of such elements
  with such separators has no idle rounds.

  Main declarations:
    * `Consumes`
    * `Consumes.separated`
    * `exists_run_separated`
    * `MovesOn`
    * `MovesOn.of_consumes`
-/

namespace CreatureProse.Parser

variable {α β γ : Type}

/- A parser that moves ahead wherever it answers. -/
structure Consumes (p : Parser α) : Prop where
  lt
    {prose : Prose}
    {c r : Cursor prose}
    {a : α} :
    p.run c = some (a, r) → c.position < r.position

------------------------------------------------------------
-- Ways of Putting Parsers Together
------------------------------------------------------------

section Combinators

variable {p q : Parser α} {s : Parser β}

theorem Consumes.forward
    (hp : Consumes p) :
    Forward p where
  le hRun := Nat.le_of_lt (hp.lt hRun)

theorem Consumes.map
    {f : α → β}
    (hp : Consumes p) :
    Consumes (f <$> p) := by
  constructor
  intro prose c r b hRun
  rcases run_map_eq_some.mp hRun with ⟨a, hFirst, -⟩
  exact hp.lt hFirst

theorem Consumes.filterMap
    {f : α → Option β}
    (hp : Consumes p) :
    Consumes (p.filterMap f) := by
  constructor
  intro prose c r b hRun
  rcases run_filterMap_eq_some.mp hRun with ⟨a, hFirst, -⟩
  exact hp.lt hFirst

theorem Consumes.seq
    {t : Parser (α → β)}
    (ht : Consumes t)
    (p : Parser α)
    [Forward p] :
    Consumes (t <*> p) := by
  constructor
  intro prose c r b hRun
  rcases run_seq_eq_some.mp hRun with ⟨f, m, hFirst, a, hSecond, -⟩
  exact Nat.lt_of_lt_of_le (ht.lt hFirst) (Forward.le hSecond)

theorem Consumes.seqLeft
    (hp : Consumes p)
    (s : Parser β)
    [Forward s] :
    Consumes (p <* s) :=
  hp.map.seq s

theorem Consumes.seqRight
    (hp : Consumes p)
    (s : Parser β)
    [Forward s] :
    Consumes (p *> s) :=
  hp.map.seq s

/- The second part of a sequence is enough as well. -/
theorem Consumes.after
    (hs : Consumes s)
    (p : Parser α)
    [Forward p] :
    Consumes (p *> s) := by
  constructor
  intro prose c r b hRun
  rcases run_seqRight_eq_some.mp hRun with ⟨a, m, hFirst, hSecond⟩
  exact Nat.lt_of_le_of_lt (Forward.le hFirst) (hs.lt hSecond)

theorem Consumes.padded
    (hp : Consumes p)
    (s : Parser β)
    [Forward s] :
    Consumes (p.padded s) :=
  (hp.after s.optional).seqLeft s.optional

theorem Consumes.orElse
    (hp : Consumes p)
    (hq : Consumes q) :
    Consumes (p <|> q) := by
  constructor
  intro prose c r a hRun
  rcases run_orElse_eq_some.mp hRun with hFirst | ⟨-, hSecond⟩
  · exact hp.lt hFirst
  · exact hq.lt hSecond

theorem Consumes.firstOf
    {ps : List (Parser α)}
    (hAll : ∀ p ∈ ps, Consumes p) :
    Consumes (firstOf ps) := by
  constructor
  intro prose c r a hRun
  rcases exists_of_run_firstOf hRun with ⟨p, hp, hFound⟩
  exact (hAll p hp).lt hFound

/- One or more elements that move ahead are kept, no others. -/
theorem consumes_repeated1 : Consumes p.repeated1 := by
  constructor
  intro prose c r as hRun
  rcases run_repeated1_eq_some.mp hRun with ⟨⟨hChain, -⟩, hNe⟩
  cases hChain with
  | nil => exact absurd rfl hNe
  | cons hFirst hMoves hMore =>
      exact Nat.lt_of_lt_of_le hMoves hMore.le

/- A list that must not be empty has a first element. -/
theorem Consumes.separated
    {t : Parser γ}
    [Forward s]
    [Forward t]
    {keep : List α → Bool}
    (hp : Consumes p)
    (hNone : keep [] = false) :
    Consumes ((separated p s t).filter keep) := by
  have hForward : Forward p := hp.forward
  constructor
  intro prose c r as hRun
  rcases run_filter_eq_some.mp hRun with ⟨hList, hKeep⟩
  rcases run_separated_eq_some.mp hList with
    ⟨last, hListed, d, hEnd⟩
  have hLast : last.position ≤ r.position := Forward.le hEnd
  cases hListed with
  | stop hNever =>
      rw [hNone] at hKeep
      cases hKeep
  | last hFirst hStop =>
      exact Nat.lt_of_lt_of_le (hp.lt hFirst) hLast
  | more hFirst hSeparator hMore =>
      have hMoves := hp.lt hFirst
      have hRest := hMore.le (Forward.le hSeparator)
      omega

end Combinators

------------------------------------------------------------
-- Characters and Texts
------------------------------------------------------------

theorem consumes_literal
    {expected : String}
    (hNe : expected.toList ≠ []) :
    Consumes (literal expected) := by
  constructor
  intro prose c r s hRun
  exact Cursor.position_lt_of_ahead_eq
    (run_literal_eq_some.mp hRun).2 hNe

theorem consumes_number : Consumes number :=
  consumes_repeated1.map.filterMap

------------------------------------------------------------
-- Lists Without Idle Rounds
------------------------------------------------------------

variable {element : Parser α} {separator : Parser β}

/- Where the separators move ahead there are few rounds. -/
theorem Consumes.endsBy
    [Forward element]
    (hSeparator : Consumes separator)
    {prose : Prose}
    (c : Cursor prose) :
    EndsBy element separator c (c.remaining + 1) := by
  have hForward : Forward separator := hSeparator.forward
  apply endsBy_remaining
  rintro n s - ⟨-, b, hRun⟩
  exact absurd (hSeparator.lt hRun) (Nat.lt_irrefl _)

/- A list whose separators move ahead has an end. -/
theorem exists_run_separated
    (element : Parser α)
    [Forward element]
    (hSeparator : Consumes separator)
    {prose : Prose}
    (c : Cursor prose) :
    ∃ as r, (separated element separator (pure ())).run c =
      some (as, r) := by
  have hEnds : EndsBy element separator c (c.remaining + 1) :=
    hSeparator.endsBy c
  rcases hEnds with ⟨⟨as, last⟩, hEnd⟩
  have hListed :=
    separateFrom_eq_some.mp
      (separateFrom_eq_some_iff_after.mpr ⟨_, hEnd⟩)
  exact
    ⟨as, last, run_separated_eq_some.mpr
      ⟨last, hListed, (), run_pure_eq_some.mpr ⟨rfl, rfl⟩⟩⟩

/-
  The elements and the separators of a list move ahead, and the
  list has ended after at most one round more than there are
  characters ahead.
-/
structure MovesOn
    (element : Parser α)
    (separator : Parser β) : Prop where
  consumes_element : Consumes element
  consumes_separator : Consumes separator
  endsBy {prose : Prose} (c : Cursor prose) :
    EndsBy element separator c (c.remaining + 1)

theorem MovesOn.of_consumes
    (hElement : Consumes element)
    (hSeparator : Consumes separator) :
    MovesOn element separator where
  consumes_element := hElement
  consumes_separator := hSeparator
  endsBy c := by
    have hForward : Forward element := hElement.forward
    exact hSeparator.endsBy c

end CreatureProse.Parser
