import CreatureProse.Proofs.Parser.Character
import CreatureProse.Proofs.Parser.Scan

/-
  What a search through a text finds, described apart from the
  search. A search ahead stops at the first place where something
  can be read. All that is found stands from left to right, each
  of it where it was read, and nothing can be read in the gaps.
  Only one list fits this description.

  Main declarations:
    * `First`
    * `run_seek_eq_none_iff`
    * `run_seek_eq_some_iff`
    * `Scan`
    * `Scan.eq`
    * `scan_occurrences`
    * `search_leftmost`
-/

namespace CreatureProse.Parser

variable {α : Type} {prose : Prose} {p : Parser α}

------------------------------------------------------------
-- The First Place
------------------------------------------------------------

/- A place ahead in front of which nothing can be read. -/
structure First
    (p : Parser α)
    (c s : Cursor prose) : Prop where
  le : c.position ≤ s.position
  before : ∀ d : Cursor prose, c.position ≤ d.position →
    d.position < s.position → p.run d = none

/- A search has no answer where nothing can be read up to the end. -/
theorem run_seek_eq_none_iff
    {c : Cursor prose} :
    p.seek.run c = none ↔
      ∀ d : Cursor prose, c.position ≤ d.position →
        p.run d = none := by
  rw [run_seek, Option.map_eq_none_iff]
  constructor
  · intro hSeek d hLe
    exact run_eq_none_of_seekFrom hSeek hLe
  · intro hNone
    cases hSeek : p.seekFrom c with
    | none => rfl
    | some found =>
        obtain ⟨s, a, r⟩ := found
        rcases seekFrom_eq_some hSeek with ⟨hLe, hRun, -⟩
        rw [hNone s hLe] at hRun
        cases hRun

/- The answer is that at the first place, with the text skipped. -/
theorem run_seek_eq_some_iff
    {c r : Cursor prose}
    {skipped : String}
    {a : α} :
    p.seek.run c = some ((skipped, a), r) ↔
      ∃ s : Cursor prose, First p c s ∧ p.run s = some (a, r) ∧
        c.ahead = skipped.toList ++ s.ahead := by
  constructor
  · intro hRun
    rcases exists_of_run_seek hRun with
      ⟨s, rfl, hLe, hFound, hBefore⟩
    rcases Cursor.exists_ahead_eq_append hLe with ⟨read, hRead⟩
    refine ⟨s, ⟨hLe, hBefore⟩, hFound, ?_⟩
    rw [Cursor.textUntil_eq hRead, String.toList_ofList]
    exact hRead
  · rintro ⟨s, hFirst, hFound, hRead⟩
    have hSeek : p.seekFrom c = some (s, a, r) :=
      seekFrom_eq_some_of_first hFirst.le hFound hFirst.before
    rw [run_seek, hSeek, Option.map_some,
      Cursor.textUntil_eq hRead, String.ofList_toList]

/- What is read ahead is what is read at the first place. -/
theorem run_ahead_of_first
    {c s r : Cursor prose}
    {a : α}
    (hFirst : First p c s)
    (hRun : p.run s = some (a, r)) :
    p.ahead.run c = some (a, r) := by
  rw [ahead, run_map_eq_some]
  have hSeek :=
    seekFrom_eq_some_of_first hFirst.le hRun hFirst.before
  refine ⟨(c.textUntil s, a), ?_, rfl⟩
  rw [run_seek, hSeek, Option.map_some]

------------------------------------------------------------
-- All Places
------------------------------------------------------------

/-
  All that can be read from a position on: values in the order of
  the text, each of them read where it stands, and nothing that
  can be read where none of them stands.
-/
structure Scan
    (p : Parser α)
    (prose : Prose)
    (low : Nat)
    (as : List (Located α)) : Prop where
  inOrder : Span.InOrder (as.map Located.span) low prose.size
  readAt : ∀ a ∈ as, ReadAt p prose a
  gaps : ∀ d : Cursor prose, low ≤ d.position →
    (∀ a ∈ as,
      d.position < a.span.start ∨ a.span.stop ≤ d.position) →
      p.run d = none

namespace Scan

variable {low : Nat} {a b : Located α} {as bs : List (Located α)}

/- What comes behind the first value is a scan from its end. -/
theorem tail
    (hScan : Scan p prose low (a :: as)) :
    Scan p prose a.span.stop as := by
  rcases hScan.inOrder with ⟨hLow, hSpan, hMore⟩
  refine ⟨hMore, fun b hb => hScan.readAt b (by simp [hb]), ?_⟩
  intro d hLe hOutside
  apply hScan.gaps d
  · exact Nat.le_trans hLow (Nat.le_trans (Nat.le_of_lt hSpan) hLe)
  · exact List.forall_mem_cons.mpr ⟨Or.inr hLe, hOutside⟩

/- Nothing can be read in front of the first value. -/
theorem run_eq_none
    (hScan : Scan p prose low (a :: as))
    {d : Cursor prose}
    (hLow : low ≤ d.position)
    (hLt : d.position < a.span.start) :
    p.run d = none := by
  apply hScan.gaps d hLow
  rcases hScan.inOrder with ⟨-, hSpan, hMore⟩
  refine List.forall_mem_cons.mpr ⟨Or.inl hLt, fun b hb => ?_⟩
  have hLater := (hMore.of_mem (List.mem_map_of_mem hb)).1
  exact Or.inl (by omega)

/- The first value does not begin behind that of another scan. -/
theorem start_le
    (hFirst : Scan p prose low (a :: as))
    (hSecond : Scan p prose low (b :: bs)) :
    a.span.start ≤ b.span.start := by
  rcases hSecond.readAt b (by simp) with ⟨c, r, hRun, hSpan⟩
  have hLow : low ≤ b.span.start := hSecond.inOrder.1
  apply Nat.le_of_not_lt
  intro hLt
  rw [hSpan] at hLow hLt
  rw [hFirst.run_eq_none hLow hLt] at hRun
  cases hRun

/- The first values of two scans are the same. -/
theorem head_eq
    (hFirst : Scan p prose low (a :: as))
    (hSecond : Scan p prose low (b :: bs)) :
    a = b := by
  have hStart :=
    Nat.le_antisymm (hFirst.start_le hSecond)
      (hSecond.start_le hFirst)
  rcases hFirst.readAt a (by simp) with ⟨c, r, hRun, hSpan⟩
  rcases hSecond.readAt b (by simp) with ⟨d, s, hOther, hPlace⟩
  obtain ⟨v, span⟩ := a
  obtain ⟨w, place⟩ := b
  cases hSpan
  cases hPlace
  rw [Cursor.eq_of_position_eq hStart, hOther] at hRun
  cases hRun
  exact congrArg (Located.mk v ⟨·, r.position⟩) hStart

theorem not_nil_of_cons
    (hScan : Scan p prose low (a :: as)) :
    ¬ Scan p prose low [] := by
  intro hNil
  rcases hScan.readAt a (by simp) with ⟨c, r, hRun, hSpan⟩
  have hLow : low ≤ a.span.start := hScan.inOrder.1
  rw [hSpan] at hLow
  rw [hNil.gaps c hLow (List.forall_mem_nil _)] at hRun
  cases hRun

/- There is one scan only. -/
protected theorem eq
    (hFirst : Scan p prose low as)
    (hSecond : Scan p prose low bs) :
    as = bs := by
  induction as generalizing low bs with
  | nil =>
      cases bs with
      | nil => rfl
      | cons b more => exact absurd hFirst hSecond.not_nil_of_cons
  | cons a as ih =>
      cases bs with
      | nil => exact absurd hSecond hFirst.not_nil_of_cons
      | cons b more =>
          cases hFirst.head_eq hSecond
          rw [ih hFirst.tail hSecond.tail]

end Scan

/- What is never empty is found by a scan. -/
theorem scan_occurrences
    (hReads : ∀ {c r : Cursor prose} {a : α},
      p.run c = some (a, r) → c.position < r.position)
    (c : Cursor prose) :
    Scan p prose c.position (p.occurrences c) := by
  rcases occurrences_chain p c with ⟨r, hChain, hStuck⟩
  refine
    ⟨(hChain.inOrder hReads).to_le r.position_le, hChain.readAt, ?_⟩
  intro d hLe hOutside
  apply run_eq_none
  intro b e hRun
  rcases hChain.exists_mem_of_run hReads hStuck hLe hRun with
    ⟨a, ha, hStart, hStop⟩
  rcases hOutside a ha with hBefore | hBehind
  · exact absurd hStart (Nat.not_le_of_lt hBefore)
  · exact absurd hStop (Nat.not_lt_of_le hBehind)

/-
  A search ahead has no answer if nothing can be read from its
  position up to the end of the text, and otherwise the answer at
  the first place with the text in front of it. All that is found
  in a text by a parser that never reads nothing is the one scan
  of this text.
-/
theorem search_leftmost
    (p : Parser α)
    (prose : Prose) :
    (∀ c : Cursor prose,
      (p.seek.run c = none ↔
        ∀ d : Cursor prose, c.position ≤ d.position →
          p.run d = none) ∧
      ∀ skipped a r,
        p.seek.run c = some ((skipped, a), r) ↔
          ∃ s : Cursor prose, First p c s ∧
            p.run s = some (a, r) ∧
              c.ahead = skipped.toList ++ s.ahead) ∧
    ((∀ (c r : Cursor prose) (a : α),
        p.run c = some (a, r) → c.position < r.position) →
      ∀ as, p.allIn prose = as ↔ Scan p prose 0 as) := by
  refine
    ⟨fun c => ⟨run_seek_eq_none_iff,
      fun skipped a r => run_seek_eq_some_iff⟩, ?_⟩
  intro hReads as
  have hScan : Scan p prose 0 (p.allIn prose) :=
    scan_occurrences (fun hRun => hReads _ _ _ hRun)
      (Cursor.start prose)
  constructor
  · rintro rfl
    exact hScan
  · exact hScan.eq

/- Numbers are found whole, those of a list one after the other. -/
theorem search_leftmost_numbers :
    let prose := Prose.ofString "+12, x 7"
    (∀ (c r : Cursor prose) (n : UInt32),
      number.run c = some (n, r) → c.position < r.position) ∧
      Scan number prose 0 [⟨12, ⟨1, 3⟩⟩, ⟨7, ⟨7, 8⟩⟩] := by
  intro prose
  have hReads (c r : Cursor prose) (n : UInt32)
      (hRun : number.run c = some (n, r)) :
      c.position < r.position := by
    rcases run_number_eq_some.mp hRun with
      ⟨digits, hDigits, hAhead, -⟩
    rw [Cursor.position_eq_add_length hAhead]
    exact Nat.lt_add_of_pos_right
      (List.length_pos_iff.mpr hDigits.ne_nil)
  have hFound :
      number.allIn prose = [⟨12, ⟨1, 3⟩⟩, ⟨7, ⟨7, 8⟩⟩] := by
    decide +kernel
  exact
    ⟨hReads, ((search_leftmost number prose).2 hReads _).mp hFound⟩

end CreatureProse.Parser
