import CreatureProse.Proofs.Parser.Rounds

/-
  A list with separators is read greedily. Its elements form a
  chain, with a separator before each but the first, that goes on
  for as long as one more separator and an element behind it can
  be read. The terminator is looked for right behind the last
  element, so that a separator without an element is given back.

  Main declarations:
    * `NextAt`
    * `Linked`
    * `Greedy`
    * `Round.Keeps`
    * `exists_after_iff_greedy`
    * `ends_iff_exists_greedy`
    * `run_separated_greedy`
-/

namespace CreatureProse.Parser

variable
  {α β γ : Type}
  {element : Parser α}
  {separator : Parser β}
  {prose : Prose}
  {c last m n r : Cursor prose}
  {a : α}
  {as : List α}

------------------------------------------------------------
-- Chains of Elements
------------------------------------------------------------

/-
  Where one more element has to stand after others that end at
  `m`: right there if it is the first one, and else behind a
  separator.
-/
def NextAt
    (separator : Parser β)
    (as : List α)
    (m n : Cursor prose) : Prop :=
  (as = [] ∧ n = m) ∨
    (as ≠ [] ∧ ∃ b, separator.run m = some (b, n))

/-
  Elements that are read from a position on, with a separator
  before each but the first, and the place where the last of them
  ends. More of them may follow.
-/
inductive Linked
    (element : Parser α)
    (separator : Parser β)
    {prose : Prose}
    (c : Cursor prose) :
    List α → Cursor prose → Prop where
| start : Linked element separator c [] c
| extend
    {as : List α}
    {m n r : Cursor prose}
    {a : α}
    (hLinked : Linked element separator c as m)
    (hNext : NextAt separator as m n)
    (hRun : element.run n = some (a, r)) :
    Linked element separator c (as ++ [a]) r

/- A chain of elements to which no further one can be added. -/
structure Greedy
    (element : Parser α)
    (separator : Parser β)
    {prose : Prose}
    (c : Cursor prose)
    (as : List α)
    (last : Cursor prose) : Prop where
  linked : Linked element separator c as last
  stops : ∀ n, NextAt separator as last n → element.run n = none

@[simp] theorem nextAt_nil :
    NextAt separator ([] : List α) m n ↔ n = m := by
  simp [NextAt]

@[simp] theorem nextAt_append :
    NextAt separator (as ++ [a]) m n ↔
      ∃ b, separator.run m = some (b, n) := by
  simp [NextAt]

/- There is only one place for the next element. -/
theorem NextAt.unique
    {k : Cursor prose}
    (hFirst : NextAt separator as m n)
    (hSecond : NextAt separator as m k) :
    n = k := by
  rcases hFirst with ⟨rfl, rfl⟩ | ⟨hNe, b, hRun⟩
  · exact (nextAt_nil.mp hSecond).symm
  · rcases hSecond with ⟨hNil, -⟩ | ⟨-, d, hOther⟩
    · exact absurd hNil hNe
    · rw [hRun] at hOther
      cases hOther
      rfl

/- A chain ends behind its last element, or where it begins. -/
theorem Linked.ends_behind
    (hLinked : Linked element separator c as last) :
    (as = [] ∧ last = c) ∨
      ∃ front a n,
        as = front ++ [a] ∧ element.run n = some (a, last) := by
  cases hLinked with
  | start => exact .inl ⟨rfl, rfl⟩
  | extend hFront hNext hRun =>
      exact .inr ⟨_, _, _, rfl, hRun⟩

------------------------------------------------------------
-- What the Rounds Keep
------------------------------------------------------------

namespace Round

variable {s t : Round α prose}

/-
  What each round finds: the elements so far are a chain that
  ends where the list would end without a further one, and the
  place to look is the one where a further one has to stand.
-/
structure Keeps
    (element : Parser α)
    (separator : Parser β)
    (c : Cursor prose)
    (s : Round α prose) : Prop where
  linked : Linked element separator c s.found.reverse s.before
  next : NextAt separator s.found.reverse s.before s.here

theorem keeps_first :
    (first c : Round α prose).Keeps element separator c where
  linked := .start
  next := nextAt_nil.mpr rfl

theorem Keeps.step
    (hKeeps : s.Keeps element separator c)
    (hStep : s.step element separator = .inl t) :
    t.Keeps element separator c := by
  rcases step_eq_inl.mp hStep with
    ⟨a, b, hRun, hSeparator, hFound⟩
  have hReverse : t.found.reverse = s.found.reverse ++ [a] := by
    rw [hFound, List.reverse_cons]
  constructor
  · rw [hReverse]
    exact .extend hKeeps.linked hKeeps.next hRun
  · rw [hReverse]
    exact nextAt_append.mpr ⟨b, hSeparator⟩

/-
  The last round is one without an element, where the separator
  that was read in vain is given back, or one without a separator
  after its element. Neither leaves room for a further element.
-/
theorem Keeps.greedy_of_last
    {list : List α × Cursor prose}
    (hKeeps : s.Keeps element separator c)
    (hStep : s.step element separator = .inr list) :
    Greedy element separator c list.1 list.2 := by
  rcases step_eq_inr hStep with
    ⟨hNone, rfl⟩ | ⟨a, m, hRun, hNone, rfl⟩
  · refine ⟨hKeeps.linked, ?_⟩
    intro n hNext
    rw [hNext.unique hKeeps.next]
    exact hNone
  · dsimp only
    rw [List.reverse_cons]
    refine ⟨.extend hKeeps.linked hKeeps.next hRun, ?_⟩
    intro n hNext
    rcases nextAt_append.mp hNext with ⟨b, hSeparator⟩
    rw [hNone] at hSeparator
    cases hSeparator

theorem keeps_of_after
    {k : Nat}
    (hAfter : (first c).after element separator k = .inl s) :
    s.Keeps element separator c := by
  induction k generalizing s with
  | zero =>
      cases hAfter
      exact keeps_first
  | succ k ih =>
      rw [after] at hAfter
      split at hAfter
      next t hEarlier => exact (ih hEarlier).step hAfter
      next list hEnd => cases hAfter

theorem greedy_of_after
    {k : Nat}
    {list : List α × Cursor prose}
    (hAfter : (first c).after element separator k = .inr list) :
    Greedy element separator c list.1 list.2 := by
  induction k with
  | zero => cases hAfter
  | succ k ih =>
      rw [after] at hAfter
      split at hAfter
      next t hEarlier =>
        exact (keeps_of_after hEarlier).greedy_of_last hAfter
      next earlier hEnd =>
        cases hAfter
        exact ih hEnd

end Round

------------------------------------------------------------
-- Chains and Rounds
------------------------------------------------------------

open Round

/- Each element of a chain takes one round. -/
theorem Linked.after_length
    (hLinked : Linked element separator c as m)
    (hNext : NextAt separator as m n) :
    (first c).after element separator as.length =
      .inl ⟨m, n, as.reverse⟩ := by
  induction hLinked generalizing n with
  | start =>
      rw [nextAt_nil.mp hNext]
      rfl
  | extend hFront hBehind hRun ih =>
      rcases nextAt_append.mp hNext with ⟨b, hSeparator⟩
      rw [List.length_append, List.length_singleton, after,
        ih hBehind, List.reverse_concat]
      exact step_of_more hRun hSeparator

/-
  The round after the last element finds none, if there is such a
  round; otherwise the one with the last element finds no
  separator after it.
-/
theorem Greedy.exists_after
    (hGreedy : Greedy element separator c as last) :
    ∃ k, (first c).after element separator k =
      .inr (as, last) := by
  rcases Classical.em (∃ n, NextAt separator as last n) with
    ⟨n, hNext⟩ | hNowhere
  · refine ⟨as.length + 1, ?_⟩
    rw [after, hGreedy.linked.after_length hNext]
    dsimp only
    rw [step_of_none (hGreedy.stops n hNext), List.reverse_reverse]
  · cases hGreedy.linked with
    | start => exact absurd ⟨c, nextAt_nil.mpr rfl⟩ hNowhere
    | @extend front m n _ a hFront hNext hRun =>
        have hNone : separator.run last = none := by
          apply run_eq_none
          intro b r hSeparator
          exact hNowhere ⟨r, nextAt_append.mpr ⟨b, hSeparator⟩⟩
        refine ⟨front.length + 1, ?_⟩
        rw [after, hFront.after_length hNext]
        dsimp only
        rw [step_of_last hRun hNone, List.reverse_cons,
          List.reverse_reverse]

/- The rounds end with the chain that cannot be extended. -/
theorem exists_after_iff_greedy :
    (∃ k, (first c).after element separator k =
        .inr (as, last)) ↔
      Greedy element separator c as last :=
  ⟨fun ⟨_, hAfter⟩ => greedy_of_after hAfter,
    Greedy.exists_after⟩

/- A list ends unless its chain can be extended forever. -/
theorem ends_iff_exists_greedy :
    Ends element separator c ↔
      ∃ as last, Greedy element separator c as last := by
  constructor
  · rintro ⟨k, list, hAfter⟩
    exact ⟨list.1, list.2, greedy_of_after hAfter⟩
  · rintro ⟨as, last, hGreedy⟩
    rcases hGreedy.exists_after with ⟨k, hAfter⟩
    exact ⟨k, (as, last), hAfter⟩

theorem separateFrom_eq_some_iff_greedy :
    separateFrom element separator c c [] = some (as, last) ↔
      Greedy element separator c as last :=
  separateFrom_eq_some_iff_after.trans exists_after_iff_greedy

------------------------------------------------------------
-- Lists
------------------------------------------------------------

/-
  Where a list comes to an end, there is just one chain that
  cannot be extended. The list is read if and only if its
  terminator follows this chain; it then has the elements of the
  chain and ends behind the terminator. The chain itself ends
  behind its last element, or where the list begins if it has
  none, whether or not a separator comes next; no element stands
  behind such a separator, which is for the terminator to read.
-/
theorem run_separated_greedy
    (element : Parser α)
    (separator : Parser β)
    (terminator : Parser γ)
    {prose : Prose}
    {c : Cursor prose}
    (hEnds : Ends element separator c) :
    ∃ as last,
      (∀ bs m, Greedy element separator c bs m ↔
        bs = as ∧ m = last) ∧
      (∀ bs r,
        (separated element separator terminator).run c =
            some (bs, r) ↔
          bs = as ∧ ∃ t, terminator.run last = some (t, r)) ∧
      ((as = [] ∧ last = c) ∨
        ∃ front a n,
          as = front ++ [a] ∧ element.run n = some (a, last)) ∧
      ∀ b n, as ≠ [] → separator.run last = some (b, n) →
        element.run n = none := by
  rcases ends_iff_exists_greedy.mp hEnds with ⟨as, last, hGreedy⟩
  have hList :
      separateFrom element separator c c [] = some (as, last) :=
    separateFrom_eq_some_iff_greedy.mpr hGreedy
  refine ⟨as, last, ?_, ?_, hGreedy.linked.ends_behind, ?_⟩
  · intro bs m
    rw [← separateFrom_eq_some_iff_greedy, hList,
      Option.some.injEq, Prod.mk.injEq, eq_comm, @eq_comm _ last]
  · intro bs r
    rw [run_separated, hList, Option.bind_some,
      Option.map_eq_some_iff]
    constructor
    · rintro ⟨⟨t, rest⟩, hRun, hEq⟩
      cases hEq
      exact ⟨rfl, t, hRun⟩
    · rintro ⟨rfl, t, hRun⟩
      exact ⟨(t, r), hRun, rfl⟩
  · intro b n hNe hSeparator
    exact hGreedy.stops n (.inr ⟨hNe, b, hSeparator⟩)

/-
  A comma that no number follows is left over, unless the
  terminator does not allow for it.
-/
theorem run_separated_greedy_danglingComma :
    let c := Cursor.start (Prose.ofString "1, 2, x")
    let last : Cursor (Prose.ofString "1, 2, x") :=
      ⟨4, by decide⟩
    Ends number (literal ", ") c ∧
      Greedy number (literal ", ") c [1, 2] last ∧
      (separated number (literal ", ") (pure ())).run c =
        some ([1, 2], last) ∧
      (separated number (literal ", ") atEnd).run c = none := by
  intro c last
  have hAfter :
      (first c).after number (literal ", ") 3 =
        .inr ([1, 2], last) := by
    decide +kernel
  have hEnds : Ends number (literal ", ") c :=
    ⟨3, ([1, 2], last), hAfter⟩
  have hGreedy : Greedy number (literal ", ") c [1, 2] last :=
    greedy_of_after hAfter
  refine ⟨hEnds, hGreedy, ?_, ?_⟩
  · rcases run_separated_greedy number (literal ", ") (pure ())
        hEnds with ⟨as, stop, hOnly, hRead, -⟩
    rcases (hOnly [1, 2] last).mp hGreedy with ⟨rfl, rfl⟩
    exact (hRead [1, 2] last).mpr ⟨rfl, (), rfl⟩
  · rcases run_separated_greedy number (literal ", ") atEnd
        hEnds with ⟨as, stop, hOnly, hRead, -⟩
    rcases (hOnly [1, 2] last).mp hGreedy with ⟨rfl, rfl⟩
    apply run_eq_none
    intro bs r hRun
    rcases (hRead bs r).mp hRun with ⟨-, t, hEnd⟩
    cases hEnd

end CreatureProse.Parser
