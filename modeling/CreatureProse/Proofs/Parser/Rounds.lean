import CreatureProse.Proofs.Parser.Plan

/-
  The rounds in which a list with separators is read. In each
  round one element is looked for and then its separator. The
  rounds come to an end unless one of them begins where an
  element and a separator both read nothing: it leads back to
  where it began, and so do all that follow.

  Main declarations:
    * `Round.after`
    * `EndsBy`
    * `Ends`
    * `Idle`
    * `ends_iff`
    * `ends_iff_endsBy`
    * `Plan.Halts`
    * `Plan.halts_of_neverIdle`
    * `Plan.ends_unless_idle`
    * `Plan.not_always_ends`
-/

namespace CreatureProse.Parser

variable {α β γ : Type} {prose : Prose}

------------------------------------------------------------
-- Rounds
------------------------------------------------------------

namespace Round

/- The first round of a list that begins at a position. -/
def first (c : Cursor prose) : Round α prose where
  before := c
  here := c
  found := []

/- What a number of rounds lead to; there are none after the end. -/
def after
    (element : Parser α)
    (separator : Parser β)
    (s : Round α prose) :
    Nat → Round α prose ⊕ (List α × Cursor prose)
| 0 => .inl s
| n + 1 =>
  match s.after element separator n with
  | .inl t => t.step element separator
  | .inr list => .inr list

end Round

variable {element : Parser α} {separator : Parser β}

/- The list at a position has ended after a number of rounds. -/
def EndsBy
    (element : Parser α)
    (separator : Parser β)
    (c : Cursor prose)
    (n : Nat) : Prop :=
  ∃ list, (Round.first c).after element separator n = .inr list

/- The rounds of the list at a position come to an end. -/
def Ends
    (element : Parser α)
    (separator : Parser β)
    (c : Cursor prose) : Prop :=
  ∃ n, EndsBy element separator c n

/- An element and a separator both read nothing at a position. -/
def Idle
    (element : Parser α)
    (separator : Parser β)
    (c : Cursor prose) : Prop :=
  (∃ a, element.run c = some (a, c)) ∧
    ∃ b, separator.run c = some (b, c)

------------------------------------------------------------
-- Single Rounds
------------------------------------------------------------

namespace Round

/- A round moves ahead, or it is idle and leads back. -/
theorem step_forward
    [Forward element]
    [Forward separator]
    {s t : Round α prose}
    (hStep : s.step element separator = .inl t) :
    s.here.position < t.here.position ∨
      Idle element separator s.here := by
  rcases step_eq_inl.mp hStep with ⟨a, b, hRun, hSeparator, -⟩
  have hFirst := Forward.le hRun
  have hSecond := Forward.le hSeparator
  rcases Nat.lt_or_ge s.here.position t.here.position with
    hLt | hGe
  · exact .inl hLt
  · have hBefore : t.before = s.here :=
      Cursor.eq_of_position_eq (by omega)
    have hHere : t.here = s.here :=
      Cursor.eq_of_position_eq (by omega)
    rw [hBefore] at hRun
    rw [hBefore, hHere] at hSeparator
    exact .inr ⟨⟨a, hRun⟩, b, hSeparator⟩

theorem exists_step_of_idle
    {s : Round α prose}
    (hIdle : Idle element separator s.here) :
    ∃ t, s.step element separator = .inl t ∧
      t.here = s.here := by
  rcases hIdle with ⟨⟨a, hRun⟩, b, hSeparator⟩
  exact
    ⟨⟨s.here, s.here, a :: s.found⟩,
      step_eq_inl.mpr ⟨a, b, hRun, hSeparator, rfl⟩, rfl⟩

------------------------------------------------------------
-- Many Rounds
------------------------------------------------------------

theorem after_succ_of_step
    {s t : Round α prose}
    (hStep : s.step element separator = .inl t)
    (n : Nat) :
    s.after element separator (n + 1) =
      t.after element separator n := by
  induction n with
  | zero => exact hStep
  | succ n ih => rw [after, ih, after]

theorem after_of_le
    {s : Round α prose}
    {list : List α × Cursor prose}
    {n m : Nat}
    (hEnd : s.after element separator n = .inr list)
    (hLe : n ≤ m) :
    s.after element separator m = .inr list := by
  induction hLe with
  | refl => exact hEnd
  | step hLe ih => rw [after, ih]

/- What the rounds give stays the same from round to round. -/
theorem rounds_eq_after
    (s : Round α prose)
    (n : Nat) :
    rounds (step element separator) s =
      match s.after element separator n with
      | .inl t => rounds (step element separator) t
      | .inr list => some list := by
  induction n with
  | zero => rfl
  | succ n ih =>
      rw [ih, after]
      cases s.after element separator n with
      | inr list => rfl
      | inl t =>
          dsimp only
          cases hStep : t.step element separator with
          | inl u => exact rounds_of_step hStep
          | inr list => exact rounds_of_last hStep

/- A list that can be read is read in so many rounds. -/
theorem exists_after_of_listed
    {before c last : Cursor prose}
    {as : List α}
    (hListed : Listed element separator before c as last)
    (found : List α) :
    ∃ n, (Round.mk before c found).after element separator n =
      .inr (found.reverse ++ as, last) := by
  induction hListed generalizing found with
  | stop hNone =>
      refine ⟨1, (step_of_none hNone).trans ?_⟩
      rw [List.append_nil]
  | last hRun hNone =>
      refine ⟨1, (step_of_last hRun hNone).trans ?_⟩
      rw [List.reverse_cons]
  | @more before c m next r a b as hRun hSeparator hMore ih =>
      rcases ih (a :: found) with ⟨n, hEnd⟩
      refine ⟨n + 1, ?_⟩
      rw [after_succ_of_step (step_of_more hRun hSeparator), hEnd,
        List.reverse_cons, List.append_assoc,
        List.singleton_append]

/- Where no round is idle, each of them moves ahead. -/
theorem add_le_of_after
    [Forward element]
    [Forward separator]
    {s : Round α prose}
    (hBusy : ∀ n t, s.after element separator n = .inl t →
      ¬ Idle element separator t.here)
    {n : Nat}
    {t : Round α prose}
    (hAfter : s.after element separator n = .inl t) :
    s.here.position + n ≤ t.here.position := by
  induction n generalizing t with
  | zero =>
      cases hAfter
      exact Nat.le_refl _
  | succ n ih =>
      rw [after] at hAfter
      split at hAfter
      next u hEarlier =>
        have hLe := ih hEarlier
        rcases step_forward hAfter with hLt | hIdle
        · omega
        · exact absurd hIdle (hBusy n u hEarlier)
      next list hEnd => cases hAfter

/- An idle round is followed by rounds that begin where it did. -/
theorem exists_after_of_idle
    {s t : Round α prose}
    {n : Nat}
    (hAfter : s.after element separator n = .inl t)
    (hIdle : Idle element separator t.here)
    (m : Nat) :
    ∃ u, s.after element separator (n + m) = .inl u ∧
      u.here = t.here := by
  induction m with
  | zero => exact ⟨t, hAfter, rfl⟩
  | succ m ih =>
      rcases ih with ⟨u, hLater, hHere⟩
      rw [← hHere] at hIdle
      rcases exists_step_of_idle hIdle with ⟨v, hStep, hBack⟩
      refine ⟨v, ?_, hBack.trans hHere⟩
      rw [← Nat.add_assoc, after, hLater]
      exact hStep

end Round

------------------------------------------------------------
-- Lists That End
------------------------------------------------------------

open Round

/- What is read of a list is where its rounds end. -/
theorem separateFrom_eq_some_iff_after
    {c : Cursor prose}
    {list : List α × Cursor prose} :
    separateFrom element separator c c [] = some list ↔
      ∃ n, (first c).after element separator n = .inr list := by
  constructor
  · intro hList
    exact exists_after_of_listed (separateFrom_eq_some.mp hList) []
  · rintro ⟨n, hEnd⟩
    have hSame :
        rounds (step element separator) (first c) =
          match (first c).after element separator n with
          | .inl t => rounds (step element separator) t
          | .inr list => some list :=
      rounds_eq_after (first c) n
    rw [hEnd] at hSame
    exact (separateFrom_eq_rounds _ _ c c []).trans hSame

section Forward

variable [Forward element] [Forward separator]

/- Without idle rounds there are few of them. -/
theorem endsBy_remaining
    {c : Cursor prose}
    (hBusy : ∀ n (s : Round α prose),
      (first c).after element separator n = .inl s →
        ¬ Idle element separator s.here) :
    EndsBy element separator c (c.remaining + 1) := by
  cases hAfter :
      (first c).after element separator (c.remaining + 1) with
  | inr list => exact ⟨list, hAfter⟩
  | inl s =>
      have hFar : c.position + (c.remaining + 1) ≤
          s.here.position :=
        add_le_of_after hBusy hAfter
      have hSize := s.here.position_le
      simp only [Cursor.remaining] at hFar
      omega

theorem ends_iff
    {c : Cursor prose} :
    Ends element separator c ↔
      ∀ n (s : Round α prose),
        (first c).after element separator n = .inl s →
          ¬ Idle element separator s.here := by
  constructor
  · rintro ⟨m, list, hEnd⟩ n s hAfter hIdle
    rcases exists_after_of_idle hAfter hIdle m with ⟨t, hOn, -⟩
    rw [after_of_le hEnd (Nat.le_add_left m n)] at hOn
    cases hOn
  · intro hBusy
    exact ⟨_, endsBy_remaining hBusy⟩

theorem ends_iff_endsBy
    {c : Cursor prose} :
    Ends element separator c ↔
      EndsBy element separator c (c.remaining + 1) :=
  ⟨fun hEnds => endsBy_remaining (ends_iff.mp hEnds),
    fun hEnd => ⟨_, hEnd⟩⟩

end Forward

/-
  Nothing is read where the list has no end, and where its
  terminator does not follow the last element.
-/
theorem run_separated_eq_none_iff
    {terminator : Parser γ}
    {c : Cursor prose} :
    (separated element separator terminator).run c = none ↔
      ¬ Ends element separator c ∨
        ∃ n as last,
          (first c).after element separator n =
              .inr (as, last) ∧
            terminator.run last = none := by
  rw [run_separated, Option.bind_eq_none_iff]
  simp only [Option.map_eq_none_iff,
    separateFrom_eq_some_iff_after, Prod.forall]
  constructor
  · intro hNone
    rcases Classical.em (Ends element separator c) with
      ⟨n, ⟨as, last⟩, hEnd⟩ | hNever
    · exact .inr ⟨n, as, last, hEnd, hNone as last ⟨n, hEnd⟩⟩
    · exact .inl hNever
  · rintro (hNever | ⟨n, as, last, hEnd, hNone⟩) found stop
      ⟨m, hOther⟩
    · exact absurd ⟨m, (found, stop), hOther⟩ hNever
    · have hSame :=
        (after_of_le hEnd (Nat.le_max_left n m)).symm.trans
          (after_of_le hOther (Nat.le_max_right n m))
      cases hSame
      exact hNone

------------------------------------------------------------
-- Plain Repetition
------------------------------------------------------------

theorem Chain.length_le
    {p : Parser α}
    {c r : Cursor prose}
    {as : List α}
    (hChain : Chain p c as r) :
    c.position + as.length ≤ r.position := by
  induction hChain with
  | nil => exact Nat.le_refl _
  | cons hRun hMoves hMore ih =>
      rw [List.length_cons]
      omega

/- A repetition has at most as many elements as characters. -/
theorem exists_run_repeated
    (p : Parser α)
    (c : Cursor prose) :
    ∃ as r, p.repeated.run c = some (as, r) ∧
      as.length ≤ c.remaining := by
  have hRun :
      p.repeated.run c =
        some ((p.repeatFrom c []).1, (p.repeatFrom c []).2) := rfl
  refine ⟨_, _, hRun, ?_⟩
  have hLength := (run_repeated_eq_some.mp hRun).1.length_le
  have hSize := (p.repeatFrom c []).2.position_le
  simp only [Cursor.remaining]
  omega

theorem run_repeated1_eq_none
    {p : Parser α}
    {c : Cursor prose} :
    p.repeated1.run c = none ↔ Stuck p c := by
  constructor
  · intro hNone
    rcases exists_run_repeated p c with ⟨as, r, hRun, -⟩
    rcases run_repeated_eq_some.mp hRun with ⟨hChain, hStuck⟩
    cases as with
    | nil =>
        cases hChain
        exact hStuck
    | cons a more =>
        rw [run_repeated1_eq_some.mpr
          ⟨⟨hChain, hStuck⟩, List.cons_ne_nil a more⟩] at hNone
        cases hNone
  · intro hStuck
    apply run_eq_none
    intro as r hRun
    rcases run_repeated1_eq_some.mp hRun with ⟨⟨hChain, -⟩, hNe⟩
    cases hChain with
    | nil => exact hNe rfl
    | cons hFirst hMoves hMore =>
        exact Nat.not_le_of_lt hMoves (hStuck _ _ hFirst)

------------------------------------------------------------
-- Plans
------------------------------------------------------------

namespace Plan

/-
  Whether the parser of a plan comes to an end at a position: all
  parts that are run for it do, and no list goes on forever. The
  answer alone does not tell, since a parser that gives none may
  have failed or have no end.
-/
def Halts :
    {α : Type} → [Shift α] → Plan α →
      {prose : Prose} → Cursor prose → Prop
| _, _, zip p q, _, c =>
  p.Halts c ∧ ∀ a m, p.parser.run c = some (a, m) → q.Halts m
| _, _, or p q, _, c =>
  p.Halts c ∧ (p.parser.run c = none → q.Halts c)
| _, _, optional p, _, c => p.Halts c
| _, _, map _ p, _, c => p.Halts c
| _, _, filterMap _ p, _, c => p.Halts c
| _, _, repeated p, _, c =>
  ∀ as m, Chain p.parser c as m → p.Halts m
| _, _, separated element separator terminator, _, c =>
  Ends element.parser separator.parser c ∧
    (∀ n s,
      (first c).after element.parser separator.parser n =
          .inl s →
        element.Halts s.here ∧
          ∀ a m, element.parser.run s.here = some (a, m) →
            separator.Halts m) ∧
    ∀ n as last,
      (first c).after element.parser separator.parser n =
          .inr (as, last) →
        terminator.Halts last
| _, _, seek p, prose, c =>
  ∀ m : Cursor prose, c.position ≤ m.position →
    (∀ k : Cursor prose, c.position ≤ k.position →
      k.position < m.position → p.parser.run k = none) →
      p.Halts m
| _, _, located p, _, c => p.Halts c
| _, _, _, _, _ => True

/- No list in a plan is idle at any position of any text. -/
def NeverIdle : {α : Type} → [Shift α] → Plan α → Prop
| _, _, zip p q => p.NeverIdle ∧ q.NeverIdle
| _, _, or p q => p.NeverIdle ∧ q.NeverIdle
| _, _, optional p => p.NeverIdle
| _, _, map _ p => p.NeverIdle
| _, _, filterMap _ p => p.NeverIdle
| _, _, repeated p => p.NeverIdle
| _, _, separated element separator terminator =>
  (element.NeverIdle ∧ separator.NeverIdle ∧
    terminator.NeverIdle) ∧
    ∀ {prose : Prose} (c : Cursor prose),
      ¬ Idle element.parser separator.parser c
| _, _, seek p => p.NeverIdle
| _, _, located p => p.NeverIdle
| _, _, _ => True

/- Where no list is ever idle, a parser always comes to an end. -/
theorem halts_of_neverIdle
    {α : Type}
    [Shift α]
    {p : Plan α}
    (hPlan : p.NeverIdle)
    (c : Cursor prose) :
    p.Halts c := by
  induction p generalizing c with
  | zip p q ihFirst ihSecond =>
      exact ⟨ihFirst hPlan.1 c, fun _ m _ => ihSecond hPlan.2 m⟩
  | or p q ihFirst ihSecond =>
      exact ⟨ihFirst hPlan.1 c, fun _ => ihSecond hPlan.2 c⟩
  | optional p ih => exact ih hPlan c
  | map f p ih => exact ih hPlan c
  | filterMap f p ih => exact ih hPlan c
  | repeated p ih => exact fun _ m _ => ih hPlan m
  | separated element separator terminator ihElement ihSeparator
      ihTerminator =>
      rcases hPlan with
        ⟨⟨hElement, hSeparator, hTerminator⟩, hBusy⟩
      refine
        ⟨ends_iff.mpr fun n s _ => hBusy s.here, ?_,
          fun _ _ last _ => ihTerminator hTerminator last⟩
      exact fun _ s _ =>
        ⟨ihElement hElement s.here,
          fun _ m _ => ihSeparator hSeparator m⟩
  | seek p ih => exact fun m _ _ => ih hPlan m
  | located p ih => exact ih hPlan c
  | character | literal | wordStart | wordEnd | rest | atEnd
  | nothing | never => exact trivial

variable [Shift α] [Shift β] [Shift γ]

/-
  A list comes to an end just where none of its rounds is idle
  and its parts come to an end in each of them, as its terminator
  does after the last. Its rounds are then at most one more than
  the characters ahead, and it is not read only where its
  terminator does not follow the last element. Where no part is
  ever idle, a list has an end unless it is idle itself, and so
  does a plain repetition, which leaves out an element that reads
  nothing: it has at most as many elements as characters. One or
  more elements are not read only where no first one moves ahead.
-/
theorem ends_unless_idle
    (element : Plan α)
    (separator : Plan β)
    (terminator : Plan γ)
    (c : Cursor prose) :
    ((separated element separator terminator).Halts c ↔
        (∀ n s,
          (first c).after element.parser separator.parser n =
              .inl s →
            (element.Halts s.here ∧
              ∀ a m, element.parser.run s.here = some (a, m) →
                separator.Halts m) ∧
            ¬ Idle element.parser separator.parser s.here) ∧
          ∀ n as last,
            (first c).after element.parser separator.parser n =
                .inr (as, last) →
              terminator.Halts last) ∧
      ((separated element separator terminator).Halts c →
        EndsBy element.parser separator.parser c
            (c.remaining + 1) ∧
          ((separated element separator terminator).parser.run c =
              none ↔
            ∃ n as last,
              (first c).after element.parser separator.parser n =
                  .inr (as, last) ∧
                terminator.parser.run last = none)) ∧
      (element.NeverIdle →
        (repeated element).Halts c ∧ (repeated1 element).Halts c) ∧
      (∃ as r, (repeated element).parser.run c = some (as, r) ∧
        as.length ≤ c.remaining) ∧
      ((repeated1 element).parser.run c = none ↔
        Stuck element.parser c) := by
  refine
    ⟨?_, ?_, ?_, exists_run_repeated element.parser c,
      run_repeated1_eq_none⟩
  · have hEnds :
        Ends element.parser separator.parser c ↔
          ∀ n (s : Round α prose),
            (first c).after element.parser separator.parser n =
                .inl s →
              ¬ Idle element.parser separator.parser s.here :=
      ends_iff
    rw [Halts, hEnds]
    constructor
    · rintro ⟨hBusy, hParts, hLast⟩
      exact
        ⟨fun n s hAfter => ⟨hParts n s hAfter, hBusy n s hAfter⟩,
          hLast⟩
    · rintro ⟨hRounds, hLast⟩
      exact
        ⟨fun n s hAfter => (hRounds n s hAfter).2,
          fun n s hAfter => (hRounds n s hAfter).1, hLast⟩
  · rintro ⟨hEnds, -, -⟩
    refine ⟨ends_iff_endsBy.mp hEnds, ?_⟩
    exact run_separated_eq_none_iff.trans
      (or_iff_right (not_not_intro hEnds))
  · intro hElement
    exact
      ⟨halts_of_neverIdle (p := repeated element) hElement c,
        halts_of_neverIdle (p := repeated1 element) hElement c⟩

/- A number, or nothing, with a comma after it or not. -/
def looseNumber : Plan (Option UInt32) :=
  optional number

/- A comma, or nothing. -/
def looseComma : Plan (Option Char) :=
  optional (char ',')

/-
  After the last number, neither a number nor a comma has to
  follow, and so the list has no end. It has one if each element
  must be a number, and is then not read where more text follows
  than there may be.
-/
theorem ends_unless_idle_looseNumbers :
    let c := Cursor.start (Prose.ofString "1,2;")
    ¬ (separated looseNumber looseComma nothing).Halts c ∧
      EndsBy number.parser looseComma.parser c 5 ∧
      (separated number looseComma atEnd).parser.run c = none := by
  intro c
  have hLoose :
      ¬ (separated looseNumber looseComma nothing).Halts c := by
    intro hHalts
    have hRounds :=
      (ends_unless_idle looseNumber looseComma nothing c).1.mp hHalts
    refine (hRounds.1 2
      ⟨⟨3, by decide⟩, ⟨3, by decide⟩, [some 2, some 1]⟩ ?_).2
      ⟨⟨none, ?_⟩, none, ?_⟩
    all_goals decide +kernel
  have hPlan : (separated number looseComma atEnd).NeverIdle := by
    refine ⟨⟨trivial, trivial, trivial⟩, ?_⟩
    rintro prose d ⟨⟨n, hRun⟩, -⟩
    rcases run_number_eq_some.mp hRun with ⟨digits, hDigits, hRead, -⟩
    exact Nat.lt_irrefl _
      (Cursor.position_lt_of_ahead_eq hRead hDigits.ne_nil)
  have hStrict :=
    (ends_unless_idle number looseComma atEnd c).2.1
      (halts_of_neverIdle hPlan c)
  refine
    ⟨hLoose, hStrict.1,
      hStrict.2.mpr ⟨3, [1, 2], ⟨3, by decide⟩, ?_, ?_⟩⟩
  all_goals decide +kernel

/- A list of which nothing has to be there need not end. -/
theorem not_always_ends :
    ¬ ∀ {α β : Type} [Shift α] [Shift β]
      (element : Plan α) (separator : Plan β)
      {prose : Prose} (c : Cursor prose),
        Ends element.parser separator.parser c := by
  intro hAll
  have hEnds := hAll nothing nothing (Cursor.start #[])
  exact
    ends_iff.mp hEnds 0 (first (Cursor.start #[])) rfl
      ⟨⟨(), rfl⟩, (), rfl⟩

end Plan

end CreatureProse.Parser
