import CreatureProse.Parser.Scan
import CreatureProse.Proofs.Parser.Repeat
import CreatureProse.Proofs.Span
import Mathlib.Data.List.Pairwise

/-
  A search finds the first place where a parser reads something,
  and all that is found in a text stands in its order.

  Main declarations:
    * `seekFrom_eq_some`
    * `run_eq_none_of_seekFrom`
    * `exists_of_run_seek`
    * `run_ahead_eq_some`
    * `ReadAt`
    * `readAt_of_mem_allIn`
    * `exists_mem_allIn_of_run`
    * `allIn_inOrder`
    * `exists_mem_allIn_between_iff`
-/

namespace CreatureProse.Parser

variable {α : Type} {prose : Prose} {p : Parser α}

------------------------------------------------------------
-- The First Place
------------------------------------------------------------

/- Nothing is read from where the search begins to the place. -/
theorem seekFrom_eq_some
    {c s r : Cursor prose}
    {a : α}
    (hSeek : p.seekFrom c = some (s, a, r)) :
    c.position ≤ s.position ∧ p.run s = some (a, r) ∧
      ∀ d : Cursor prose, c.position ≤ d.position →
        d.position < s.position → p.run d = none := by
  fun_induction seekFrom p c with
  | case1 c b rest hRun =>
      cases hSeek
      refine ⟨Nat.le_refl _, hRun, ?_⟩
      intro d hLe hLt
      omega
  | case2 c hNone b following hNext ih =>
      have hPosition :=
        Cursor.position_of_ahead_eq_cons
          (Cursor.next?_eq_some_iff.mp hNext)
      rcases ih hSeek with ⟨hLe, hRun, hBefore⟩
      refine ⟨by omega, hRun, ?_⟩
      intro d hFrom hLt
      by_cases hHere : c.position = d.position
      · rw [← Cursor.eq_of_position_eq hHere]
        exact hNone
      · exact hBefore d (by omega) hLt
  | case3 c hNone hNext => cases hSeek

/- A search without an answer has tried every place ahead. -/
theorem run_eq_none_of_seekFrom
    {c d : Cursor prose}
    (hSeek : p.seekFrom c = none)
    (hLe : c.position ≤ d.position) :
    p.run d = none := by
  fun_induction seekFrom p c with
  | case1 c b rest hRun => cases hSeek
  | case2 c hNone b following hNext ih =>
      by_cases hHere : c.position = d.position
      · rw [← Cursor.eq_of_position_eq hHere]
        exact hNone
      · apply ih hSeek
        have hPosition :=
          Cursor.position_of_ahead_eq_cons
            (Cursor.next?_eq_some_iff.mp hNext)
        omega
  | case3 c hNone hNext =>
      have hStop : c = Cursor.stop prose :=
        Cursor.eq_stop_iff.mpr (Cursor.next?_eq_none_iff.mp hNext)
      have hLast := d.position_le
      rw [hStop] at hLe hNone
      rw [Cursor.eq_of_position_eq (Nat.le_antisymm hLast hLe)]
      exact hNone

/- The first place where something is read is the one found. -/
theorem seekFrom_eq_some_of_first
    {c s r : Cursor prose}
    {a : α}
    (hLe : c.position ≤ s.position)
    (hRun : p.run s = some (a, r))
    (hFirst : ∀ d : Cursor prose, c.position ≤ d.position →
      d.position < s.position → p.run d = none) :
    p.seekFrom c = some (s, a, r) := by
  cases hSeek : p.seekFrom c with
  | none =>
      rw [run_eq_none_of_seekFrom hSeek hLe] at hRun
      cases hRun
  | some found =>
      obtain ⟨t, b, n⟩ := found
      rcases seekFrom_eq_some hSeek with ⟨hFrom, hFound, hBefore⟩
      have hSame : s = t := by
        apply Cursor.eq_of_position_eq
        apply Nat.le_antisymm
        · apply Nat.le_of_not_lt
          intro hLt
          rw [hFirst t hFrom hLt] at hFound
          cases hFound
        · apply Nat.le_of_not_lt
          intro hLt
          rw [hBefore s hLe hLt] at hRun
          cases hRun
      rw [← hSame, hRun] at hFound
      cases hFound
      rw [hSame]

theorem run_seek
    (p : Parser α)
    (c : Cursor prose) :
    p.seek.run c =
      (p.seekFrom c).map fun found =>
        ((c.textUntil found.1, found.2.1), found.2.2) := by
  unfold seek
  dsimp only
  cases p.seekFrom c with
  | none => rfl
  | some found => rfl

/- What is skipped is the text up to the first place. -/
theorem exists_of_run_seek
    {c r : Cursor prose}
    {skipped : String}
    {a : α}
    (hRun : p.seek.run c = some ((skipped, a), r)) :
    ∃ s : Cursor prose, skipped = c.textUntil s ∧
      c.position ≤ s.position ∧ p.run s = some (a, r) ∧
        ∀ d : Cursor prose, c.position ≤ d.position →
          d.position < s.position → p.run d = none := by
  rw [run_seek, Option.map_eq_some_iff] at hRun
  rcases hRun with ⟨⟨s, a, rest⟩, hFound, hEq⟩
  cases hEq
  exact ⟨s, rfl, seekFrom_eq_some hFound⟩

theorem run_ahead_eq_some
    {c r : Cursor prose}
    {a : α}
    (hRun : p.ahead.run c = some (a, r)) :
    ∃ s : Cursor prose,
      c.position ≤ s.position ∧ p.run s = some (a, r) ∧
        ∀ d : Cursor prose, c.position ≤ d.position →
          d.position < s.position → p.run d = none := by
  rw [ahead, run_map_eq_some] at hRun
  rcases hRun with ⟨⟨skipped, b⟩, hSeek, rfl⟩
  rcases exists_of_run_seek hSeek with ⟨s, -, hFound⟩
  exact ⟨s, hFound⟩

theorem run_eq_none_of_run_ahead
    {c d : Cursor prose}
    (hSearch : p.ahead.run c = none)
    (hLe : c.position ≤ d.position) :
    p.run d = none := by
  apply run_eq_none_of_seekFrom _ hLe
  rw [ahead, run_map, run_seek, Option.map_eq_none_iff,
    Option.map_eq_none_iff] at hSearch
  exact hSearch

/- A place right here is the first one. -/
theorem run_ahead_of_run
    {c r : Cursor prose}
    {a : α}
    (hRun : p.run c = some (a, r)) :
    p.ahead.run c = some (a, r) := by
  have hSeek : p.seekFrom c = some (c, a, r) := by
    rw [seekFrom, hRun]
  rw [ahead, run_map_eq_some]
  refine ⟨(c.textUntil c, a), ?_, rfl⟩
  rw [run_seek, hSeek, Option.map_some]

instance [Forward p] : Forward p.seek where
  le hRun := by
    rcases exists_of_run_seek hRun with ⟨s, -, hLe, hFound, -⟩
    exact Nat.le_trans hLe (Forward.le hFound)

instance [Forward p] : Forward p.ahead :=
  inferInstanceAs (Forward (Prod.snd <$> p.seek))

------------------------------------------------------------
-- All Places
------------------------------------------------------------

/- A located value is what a parser reads at its span. -/
def ReadAt
    (p : Parser α)
    (prose : Prose)
    (a : Located α) : Prop :=
  ∃ c r : Cursor prose,
    p.run c = some (a.value, r) ∧
      a.span = ⟨c.position, r.position⟩

/- All that is found was read where it was found. -/
theorem Chain.readAt
    {c r : Cursor prose}
    {as : List (Located α)}
    (hChain : Chain p.located.ahead c as r) :
    ∀ a ∈ as, ReadAt p prose a := by
  induction hChain with
  | nil =>
      intro a ha
      cases ha
  | cons hRun hMoves hMore ih =>
      intro a ha
      rcases List.mem_cons.mp ha with rfl | ha
      · rcases run_ahead_eq_some hRun with ⟨s, -, hFound, -⟩
        rw [run_located_eq_some] at hFound
        exact ⟨s, _, hFound.1, hFound.2⟩
      · exact ih a ha

/- Whatever a search collects was read somewhere. -/
theorem Chain.exists_run
    {c r : Cursor prose}
    {as : List α}
    (hChain : Chain p.ahead c as r) :
    ∀ a ∈ as, ∃ d e : Cursor prose, p.run d = some (a, e) := by
  induction hChain with
  | nil =>
      intro a ha
      cases ha
  | cons hRun hMoves hMore ih =>
      rcases run_ahead_eq_some hRun with ⟨s, -, hFound, -⟩
      exact List.forall_mem_cons.mpr ⟨⟨s, _, hFound⟩, ih⟩

/- What is never empty is found in the order of the text. -/
theorem Chain.inOrder
    (hReads : ∀ {c r : Cursor prose} {a : α},
      p.run c = some (a, r) → c.position < r.position)
    {c r : Cursor prose}
    {as : List (Located α)}
    (hChain : Chain p.located.ahead c as r) :
    Span.InOrder (as.map Located.span) c.position
      r.position := by
  induction hChain with
  | nil => exact Nat.le_refl _
  | cons hRun hMoves hMore ih =>
      rcases run_ahead_eq_some hRun with ⟨s, hLe, hFound, -⟩
      rw [run_located_eq_some] at hFound
      rw [List.map_cons, Span.InOrder, hFound.2]
      exact ⟨hLe, hReads hFound.1, ih⟩

/- What is read anywhere lies in what was found, to the end. -/
theorem Chain.exists_mem_of_run
    (hReads : ∀ {c r : Cursor prose} {a : α},
      p.run c = some (a, r) → c.position < r.position)
    {c r d e : Cursor prose}
    {as : List (Located α)}
    {b : α}
    (hChain : Chain p.located.ahead c as r)
    (hStuck : Stuck p.located.ahead r)
    (hLe : c.position ≤ d.position)
    (hRun : p.run d = some (b, e)) :
    ∃ a ∈ as, a.span.start ≤ d.position ∧
      d.position < a.span.stop := by
  induction hChain with
  | @nil c =>
      cases hSearch : p.located.ahead.run c with
      | none =>
          have hPlace : p.located.run d =
              some (⟨b, ⟨d.position, e.position⟩⟩, e) :=
            run_located_eq_some.mpr ⟨hRun, rfl⟩
          rw [run_eq_none_of_run_ahead hSearch hLe] at hPlace
          cases hPlace
      | some reply =>
          obtain ⟨a, m⟩ := reply
          have hBack := hStuck a m hSearch
          rcases run_ahead_eq_some hSearch with ⟨s, hFrom, hFound, -⟩
          have hMoves :=
            hReads (run_located_eq_some.mp hFound).1
          omega
  | @cons c middle r found more hFirst hMoves hMore ih =>
      rcases run_ahead_eq_some hFirst with
        ⟨s, hFrom, hFound, hBefore⟩
      have hSpan := (run_located_eq_some.mp hFound).2
      rcases Nat.lt_or_ge d.position middle.position with hIn | hOut
      · refine ⟨found, List.mem_cons_self .., ?_, ?_⟩
        · rw [hSpan]
          apply Nat.le_of_not_lt
          intro hLt
          have hNone := hBefore d hLe hLt
          rw [run_located, hRun] at hNone
          cases hNone
        · rw [hSpan]
          exact hIn
      · rcases ih hStuck hOut with ⟨a, ha, hInside⟩
        exact ⟨a, List.mem_cons_of_mem found ha, hInside⟩

theorem occurrences_chain
    (p : Parser α)
    (c : Cursor prose) :
    ∃ r, Chain p.located.ahead c (p.occurrences c) r ∧
      Stuck p.located.ahead r := by
  rcases repeatFrom_chain p.located.ahead c [] with
    ⟨as, r, hEq, hChain, hStuck⟩
  refine ⟨r, ?_, hStuck⟩
  rw [occurrences, hEq, List.reverse_nil, List.nil_append]
  exact hChain

theorem readAt_of_mem_allIn
    {a : Located α}
    (hMem : a ∈ p.allIn prose) :
    ReadAt p prose a := by
  rcases occurrences_chain p (Cursor.start prose) with
    ⟨r, hChain, -⟩
  exact hChain.readAt a hMem

/- What is never empty is found wherever it can be read. -/
theorem exists_mem_allIn_of_run
    (hReads : ∀ {c r : Cursor prose} {a : α},
      p.run c = some (a, r) → c.position < r.position)
    {d e : Cursor prose}
    {b : α}
    (hRun : p.run d = some (b, e)) :
    ∃ a ∈ p.allIn prose, a.span.start ≤ d.position ∧
      d.position < a.span.stop := by
  rcases occurrences_chain p (Cursor.start prose) with
    ⟨r, hChain, hStuck⟩
  exact hChain.exists_mem_of_run hReads hStuck (Nat.zero_le _) hRun

theorem allIn_inOrder
    (hReads : ∀ {c r : Cursor prose} {a : α},
      p.run c = some (a, r) → c.position < r.position) :
    Span.InOrder ((p.allIn prose).map Located.span) 0
      prose.size := by
  rcases occurrences_chain p (Cursor.start prose) with
    ⟨r, hChain, -⟩
  exact (hChain.inOrder hReads).to_le r.position_le

/-
  What is read at a position is found there, if nothing that was
  found before goes on past it.
-/
theorem exists_mem_allIn_at
    (hReads : ∀ {c r : Cursor prose} {a : α},
      p.run c = some (a, r) → c.position < r.position)
    {c r : Cursor prose}
    {b : α}
    (hClear : ∀ a ∈ p.allIn prose,
      a.span.start < c.position → a.span.stop ≤ c.position)
    (hRun : p.run c = some (b, r)) :
    ∃ a ∈ p.allIn prose, a.span = ⟨c.position, r.position⟩ := by
  rcases exists_mem_allIn_of_run hReads hRun with
    ⟨a, ha, hStart, hStop⟩
  refine ⟨a, ha, ?_⟩
  rcases readAt_of_mem_allIn ha with ⟨d, s, hOther, hSpan⟩
  rw [hSpan] at hStart hStop
  have hSame : d.position = c.position := by
    apply Nat.le_antisymm hStart
    apply Nat.le_of_not_lt
    intro hLt
    have hBefore := hClear a ha
    rw [hSpan] at hBefore
    exact absurd (hBefore hLt) (Nat.not_le_of_lt hStop)
  rw [Cursor.eq_of_position_eq hSame, hRun] at hOther
  cases hOther
  rw [hSpan, hSame]

/- Nothing else is found inside of what is found. -/
theorem not_between_of_mem_allIn
    (hReads : ∀ {c r : Cursor prose} {a : α},
      p.run c = some (a, r) → c.position < r.position)
    {a b : Located α}
    (ha : a ∈ p.allIn prose)
    (hb : b ∈ p.allIn prose) :
    ¬ (a.span.start < b.span.start ∧ b.span.start < a.span.stop) := by
  rintro ⟨hStart, hStop⟩
  have hSymm : Std.Symm Span.Apart := ⟨fun _ _ => Span.Apart.symm⟩
  have hSpans : a.span ≠ b.span := by
    intro hSame
    rw [hSame] at hStart
    exact Nat.lt_irrefl _ hStart
  have hOrder :
      Span.InOrder ((p.allIn prose).map Located.span) 0
        prose.size :=
    allIn_inOrder hReads
  have hApart := hOrder.pairwise_apart.forall
    (List.mem_map_of_mem ha) (List.mem_map_of_mem hb) hSpans
  have hInner := (hOrder.of_mem (List.mem_map_of_mem hb)).2.1
  rw [Span.apart_iff] at hApart
  omega

/-
  Where nothing is read at a position, something further on is
  found up to another position if it can be read there at all.
-/
theorem exists_mem_allIn_between_iff
    (hReads : ∀ {c r : Cursor prose} {a : α},
      p.run c = some (a, r) → c.position < r.position)
    {c r : Cursor prose}
    (hClear : ∀ a ∈ p.allIn prose,
      a.span.start < c.position → a.span.stop ≤ c.position)
    (hNone : p.run c = none) :
    (∃ a ∈ p.allIn prose, c.position < a.span.start ∧
        a.span.start < r.position) ↔
      ∃ d : Cursor prose, c.position < d.position ∧
        d.position < r.position ∧ ∃ a s, p.run d = some (a, s) := by
  constructor
  · rintro ⟨a, ha, hFrom, hTo⟩
    rcases readAt_of_mem_allIn ha with ⟨d, s, hRun, hSpan⟩
    rw [hSpan] at hFrom hTo
    exact ⟨d, hFrom, hTo, a.value, s, hRun⟩
  · rintro ⟨d, hFrom, hTo, b, s, hRun⟩
    rcases exists_mem_allIn_of_run hReads hRun with
      ⟨a, ha, hStart, hStop⟩
    refine ⟨a, ha, ?_, Nat.lt_of_le_of_lt hStart hTo⟩
    rcases readAt_of_mem_allIn ha with ⟨m, t, hOther, hSpan⟩
    have hBefore := hClear a ha
    rw [hSpan] at hStart hStop hBefore ⊢
    apply Nat.lt_of_le_of_ne
    · apply Nat.le_of_not_lt
      intro hLt
      have hPast := hBefore hLt
      omega
    · intro hHere
      rw [← Cursor.eq_of_position_eq hHere, hNone] at hOther
      cases hOther

end CreatureProse.Parser
