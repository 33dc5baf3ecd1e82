import CreatureProse.Parser.Repeat
import CreatureProse.Proofs.Parser.Basic

/-
  A repetition reads a chain of elements, each beginning where
  the one before it ended, until no further element moves ahead.
  A list with separators ends after its last element.

  Main declarations:
    * `Chain`
    * `Stuck`
    * `run_repeated_eq_some`
    * `Listed`
    * `Round.step_eq_inl`
    * `separateFrom_eq_rounds`
    * `separateFrom_eq_some`
    * `run_separated_eq_some`
-/

namespace CreatureProse.Parser

variable {α : Type} {prose : Prose} {p : Parser α}

------------------------------------------------------------
-- Plain Repetition
------------------------------------------------------------

/-
  Elements that a parser reads one after the other, each of them
  moving ahead.
-/
inductive Chain
    (p : Parser α)
    {prose : Prose} :
    Cursor prose → List α → Cursor prose → Prop where
| nil {c : Cursor prose} : Chain p c [] c
| cons
    {c middle r : Cursor prose}
    {a : α}
    {more : List α}
    (hRun : p.run c = some (a, middle))
    (hMoves : c.position < middle.position)
    (hMore : Chain p middle more r) :
    Chain p c (a :: more) r

/- No element that a parser reads at a position moves ahead. -/
def Stuck
    (p : Parser α)
    (c : Cursor prose) : Prop :=
  ∀ a r, p.run c = some (a, r) → r.position ≤ c.position

theorem Chain.le
    {c r : Cursor prose}
    {as : List α}
    (hChain : Chain p c as r) :
    c.position ≤ r.position := by
  induction hChain with
  | nil => exact Nat.le_refl _
  | cons hRun hMoves hMore ih => omega

/- A repetition collects a chain and stops where it is stuck. -/
theorem repeatFrom_chain
    (p : Parser α)
    (c : Cursor prose)
    (found : List α) :
    ∃ as r, p.repeatFrom c found = (found.reverse ++ as, r) ∧
      Chain p c as r ∧ Stuck p r := by
  fun_induction repeatFrom p c found with
  | case1 c found hNone =>
      refine ⟨[], c, by rw [List.append_nil], .nil, ?_⟩
      intro a r hRun
      rw [hNone] at hRun
      cases hRun
  | case2 c found a middle hRun hMoves ih =>
      rcases ih with ⟨as, r, hEq, hChain, hStuck⟩
      refine
        ⟨a :: as, r, ?_, .cons hRun hMoves hChain, hStuck⟩
      rw [hEq, List.reverse_cons, List.append_assoc,
        List.singleton_append]
  | case3 c found a middle hRun hStays =>
      refine ⟨[], c, by rw [List.append_nil], .nil, ?_⟩
      intro b r hOther
      rw [hRun] at hOther
      cases hOther
      exact Nat.le_of_not_lt hStays

/- There is only one chain that ends where it is stuck. -/
theorem Chain.eq_of_stuck
    {c r s : Cursor prose}
    {as bs : List α}
    (hFirst : Chain p c as r)
    (hFirstStuck : Stuck p r)
    (hSecond : Chain p c bs s)
    (hSecondStuck : Stuck p s) :
    as = bs ∧ r = s := by
  induction hFirst generalizing bs with
  | nil =>
      cases hSecond with
      | nil => exact ⟨rfl, rfl⟩
      | cons hRun hMoves hMore =>
          exact absurd (hFirstStuck _ _ hRun)
            (Nat.not_le_of_lt hMoves)
  | cons hRun hMoves hMore ih =>
      cases hSecond with
      | nil =>
          exact absurd (hSecondStuck _ _ hRun)
            (Nat.not_le_of_lt hMoves)
      | cons hOther hOtherMoves hOtherMore =>
          rw [hRun] at hOther
          cases hOther
          rcases ih hFirstStuck hOtherMore with ⟨rfl, rfl⟩
          exact ⟨rfl, rfl⟩

/- A repetition reads the chain that ends where it is stuck. -/
theorem run_repeated_eq_some
    {c r : Cursor prose}
    {as : List α} :
    p.repeated.run c = some (as, r) ↔
      Chain p c as r ∧ Stuck p r := by
  rcases repeatFrom_chain p c [] with
    ⟨bs, s, hEq, hChain, hStuck⟩
  have hRun : p.repeated.run c = some (bs, s) := by
    change some (p.repeatFrom c []) = _
    rw [hEq, List.reverse_nil, List.nil_append]
  rw [hRun, Option.some.injEq, Prod.mk.injEq]
  constructor
  · rintro ⟨rfl, rfl⟩
    exact ⟨hChain, hStuck⟩
  · rintro ⟨hOther, hOtherStuck⟩
    exact hChain.eq_of_stuck hStuck hOther hOtherStuck

theorem run_repeated1_eq_some
    {c r : Cursor prose}
    {as : List α} :
    p.repeated1.run c = some (as, r) ↔
      (Chain p c as r ∧ Stuck p r) ∧ as ≠ [] := by
  rw [repeated1, run_filter_eq_some, run_repeated_eq_some]
  simp

instance : Forward p.repeated where
  le hRun := (run_repeated_eq_some.mp hRun).1.le

instance : Forward p.repeated1 :=
  inferInstanceAs
    (Forward (p.repeated.filter fun found => !found.isEmpty))

------------------------------------------------------------
-- Separated Lists
------------------------------------------------------------

section Separated

variable
  {β γ : Type}
  {element : Parser α}
  {separator : Parser β}
  {terminator : Parser γ}

/-
  Elements with separators between them, read from a position;
  the first position is where the list ends if it has none.
-/
inductive Listed
    (element : Parser α)
    (separator : Parser β)
    {prose : Prose} :
    Cursor prose → Cursor prose → List α → Cursor prose →
      Prop where
| stop
    {before c : Cursor prose}
    (hNone : element.run c = none) :
    Listed element separator before c [] before
| last
    {before c r : Cursor prose}
    {a : α}
    (hRun : element.run c = some (a, r))
    (hNone : separator.run r = none) :
    Listed element separator before c [a] r
| more
    {before c after next r : Cursor prose}
    {a : α}
    {b : β}
    {as : List α}
    (hRun : element.run c = some (a, after))
    (hSeparator : separator.run after = some (b, next))
    (hMore : Listed element separator after next as r) :
    Listed element separator before c (a :: as) r

namespace Round

variable
  {before c m n : Cursor prose}
  {found : List α}
  {a : α}
  {b : β}
  {s t : Round α prose}

theorem step_of_none
    (hNone : element.run c = none) :
    step element separator ⟨before, c, found⟩ =
      .inr (found.reverse, before) := by
  rw [step, hNone]

theorem step_of_last
    (hRun : element.run c = some (a, m))
    (hNone : separator.run m = none) :
    step element separator ⟨before, c, found⟩ =
      .inr ((a :: found).reverse, m) := by
  rw [step, hRun]
  dsimp only
  rw [hNone]

theorem step_of_more
    (hRun : element.run c = some (a, m))
    (hSeparator : separator.run m = some (b, n)) :
    step element separator ⟨before, c, found⟩ =
      .inl ⟨m, n, a :: found⟩ := by
  rw [step, hRun]
  dsimp only
  rw [hSeparator]

/- A round leads to another one behind a separator. -/
theorem step_eq_inl :
    s.step element separator = .inl t ↔
      ∃ a b, element.run s.here = some (a, t.before) ∧
        separator.run t.before = some (b, t.here) ∧
        t.found = a :: s.found := by
  constructor
  · intro hStep
    unfold step at hStep
    split at hStep
    next hNone => cases hStep
    next a m hRun =>
      split at hStep
      next hNone => cases hStep
      next b next hSeparator =>
        cases hStep
        exact ⟨a, b, hRun, hSeparator, rfl⟩
  · rintro ⟨a, b, hRun, hSeparator, hFound⟩
    have hStep : s.step element separator = _ :=
      step_of_more hRun hSeparator
    rw [hStep, ← hFound]

/- A round is the last where no element or no separator follows. -/
theorem step_eq_inr
    {list : List α × Cursor prose}
    (hStep : s.step element separator = .inr list) :
    (element.run s.here = none ∧
        list = (s.found.reverse, s.before)) ∨
      ∃ a m, element.run s.here = some (a, m) ∧
        separator.run m = none ∧
        list = ((a :: s.found).reverse, m) := by
  unfold step at hStep
  split at hStep
  next hNone =>
    cases hStep
    exact .inl ⟨hNone, rfl⟩
  next a m hRun =>
    split at hStep
    next hNone =>
      cases hStep
      exact .inr ⟨a, m, hRun, hNone, rfl⟩
    next b next hSeparator => cases hStep

end Round

theorem rounds_of_step
    {s t : Round α prose}
    (hStep : s.step element separator = .inl t) :
    rounds (Round.step element separator) s =
      rounds (Round.step element separator) t := by
  rw [rounds, hStep]

theorem rounds_of_last
    {s : Round α prose}
    {list : List α × Cursor prose}
    (hStep : s.step element separator = .inr list) :
    rounds (Round.step element separator) s = some list := by
  rw [rounds, hStep]

/- A list is read in rounds. -/
theorem separateFrom_eq_rounds
    (element : Parser α)
    (separator : Parser β)
    (before c : Cursor prose)
    (found : List α) :
    separateFrom element separator before c found =
      rounds (Round.step element separator) ⟨before, c, found⟩ := by
  fun_induction separateFrom element separator before c found with
  | case1 before c found hNone =>
      exact (rounds_of_last (Round.step_of_none hNone)).symm
  | case2 before c found a after hRun hNone =>
      exact (rounds_of_last (Round.step_of_last hRun hNone)).symm
  | case3 before c found a after hRun b next hSeparator hMoves ih =>
      rw [ih]
      exact (rounds_of_step (Round.step_of_more hRun hSeparator)).symm
  | case4 before c found a after hRun b next hSeparator hStays =>
      exact (rounds_of_step (Round.step_of_more hRun hSeparator)).symm

/- Where the rounds come to an end, what was read is a list. -/
theorem listed_of_rounds
    {s : Round α prose}
    {list : List α × Cursor prose}
    (hEq : rounds (Round.step element separator) s = some list) :
    ∃ more, list.1 = s.found.reverse ++ more ∧
      Listed element separator s.before s.here more list.2 := by
  refine rounds.partial_correctness (Round.step element separator)
    (fun s list => ∃ more,
      list.1 = s.found.reverse ++ more ∧
        Listed element separator s.before s.here more list.2)
    ?_ s list hEq
  intro goOn ih s list hList
  split at hList
  next last hStep =>
    cases hList
    rcases Round.step_eq_inr hStep with
      ⟨hNone, rfl⟩ | ⟨a, m, hRun, hNone, rfl⟩
    · exact ⟨[], (List.append_nil _).symm, .stop hNone⟩
    · exact ⟨[a], List.reverse_cons, .last hRun hNone⟩
  next t hStep =>
    rcases Round.step_eq_inl.mp hStep with
      ⟨a, b, hRun, hSeparator, hFound⟩
    rcases ih t list hList with ⟨more, hEq, hMore⟩
    refine ⟨a :: more, ?_, .more hRun hSeparator hMore⟩
    rw [hEq, hFound, List.reverse_cons, List.append_assoc,
      List.singleton_append]

/- A list that can be read is what is read. -/
theorem Listed.rounds_eq
    {before c last : Cursor prose}
    {as : List α}
    (hListed : Listed element separator before c as last)
    (found : List α) :
    rounds (Round.step element separator) ⟨before, c, found⟩ =
      some (found.reverse ++ as, last) := by
  induction hListed generalizing found with
  | stop hNone =>
      rw [rounds_of_last (Round.step_of_none hNone),
        List.append_nil]
  | last hRun hNone =>
      rw [rounds_of_last (Round.step_of_last hRun hNone),
        List.reverse_cons]
  | more hRun hSeparator hMore ih =>
      rw [rounds_of_step (Round.step_of_more hRun hSeparator), ih,
        List.reverse_cons, List.append_assoc,
        List.singleton_append]

theorem separateFrom_eq_some
    {c last : Cursor prose}
    {as : List α} :
    separateFrom element separator c c [] = some (as, last) ↔
      Listed element separator c c as last := by
  rw [separateFrom_eq_rounds]
  constructor
  · intro hEq
    rcases listed_of_rounds hEq with ⟨more, rfl, hListed⟩
    exact hListed
  · intro hListed
    exact hListed.rounds_eq []

theorem run_separated
    (element : Parser α)
    (separator : Parser β)
    (terminator : Parser γ)
    (c : Cursor prose) :
    (separated element separator terminator).run c =
      (separateFrom element separator c c []).bind fun list =>
        (terminator.run list.2).map fun reply =>
          (list.1, reply.2) := by
  unfold separated
  dsimp only
  cases separateFrom element separator c c [] with
  | none => rfl
  | some list => rfl

/- A list with separators is followed by its terminator. -/
theorem run_separated_eq_some
    {c r : Cursor prose}
    {as : List α} :
    (separated element separator terminator).run c =
        some (as, r) ↔
      ∃ last, Listed element separator c c as last ∧
        ∃ b, terminator.run last = some (b, r) := by
  rw [run_separated, Option.bind_eq_some_iff]
  constructor
  · rintro ⟨⟨found, last⟩, hFound, hRun⟩
    rcases Option.map_eq_some_iff.mp hRun with
      ⟨⟨b, rest⟩, hEnd, hEq⟩
    cases hEq
    exact ⟨last, separateFrom_eq_some.mp hFound, b, hEnd⟩
  · rintro ⟨last, hListed, b, hEnd⟩
    exact
      ⟨(as, last), separateFrom_eq_some.mpr hListed,
        Option.map_eq_some_iff.mpr ⟨(b, r), hEnd, rfl⟩⟩

theorem Listed.le
    [Forward element]
    [Forward separator]
    {before c r : Cursor prose}
    {as : List α}
    (hListed : Listed element separator before c as r)
    (hLe : before.position ≤ c.position) :
    before.position ≤ r.position := by
  induction hListed with
  | stop hNone => exact Nat.le_refl _
  | last hRun hNone => exact Nat.le_trans hLe (Forward.le hRun)
  | more hRun hSeparator hMore ih =>
      have hFirst := Forward.le hRun
      have hRest := ih (Forward.le hSeparator)
      omega

instance
    [Forward element]
    [Forward separator]
    [Forward terminator] :
    Forward (separated element separator terminator) where
  le hRun := by
    rcases run_separated_eq_some.mp hRun with
      ⟨last, hListed, b, hEnd⟩
    exact Nat.le_trans (hListed.le (Nat.le_refl _))
      (Forward.le hEnd)

end Separated

end CreatureProse.Parser
