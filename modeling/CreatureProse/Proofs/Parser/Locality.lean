import CreatureProse.Proofs.Parser.Plan
import CreatureProse.Proofs.Prose.Suffix

/-
  Reading is local. From a position on at which no word goes on,
  a parser reads a text as it would read the rest of it as a text
  of its own; only the spans in its value are moved. So a piece
  can be cut out of a text and read again by itself.

  Main declarations:
    * `Cursor.Breaks`
    * `Local`
    * `Plan.isLocal`
    * `Plan.run_eq_run_suffix`
-/

namespace CreatureProse

/- No word goes on across a position from the left. -/
def Cursor.Breaks
    {prose : Prose}
    (b : Cursor prose) : Prop :=
  ∀ a ∈ b.previous?, Text.isAlphanumeric a = false

instance
    {prose : Prose}
    (b : Cursor prose) :
    Decidable b.Breaks :=
  Option.decidableForallMem b.previous?

namespace Parser

variable {α β γ : Type} [Shift α] [Shift β] [Shift γ]

------------------------------------------------------------
-- Local Parsers
------------------------------------------------------------

/- An answer in the text from `b` on, as one in the whole text. -/
def placed
    {prose : Prose}
    (b : Cursor prose)
    (reply : α × Cursor b.suffix) : α × Cursor prose :=
  (Shift.shifted reply.1 b.position, b.within reply.2)

/-
  A parser that answers in a text as it does in the text from a
  position on at which no word goes on.
-/
def Local (p : Parser α) : Prop :=
  ∀ {prose : Prose} (b : Cursor prose), b.Breaks →
    ∀ c : Cursor b.suffix,
      p.run (b.within c) = (p.run c).map (placed b)

------------------------------------------------------------
-- Characters and Texts
------------------------------------------------------------

theorem local_character (accept : Char → Bool) :
    Local (character accept) := by
  intro prose b hBreak c
  simp only [character]
  rw [Cursor.next?_within]
  cases c.next? with
  | none => rfl
  | some step =>
      obtain ⟨a, r⟩ := step
      dsimp only [Option.map_some]
      cases accept a with
      | true => rfl
      | false => rfl

theorem local_literal (expected : String) :
    Local (literal expected) := by
  intro prose b hBreak c
  simp only [literal]
  rw [Cursor.skip?_within, Option.map_map, Option.map_map]
  rfl

/-
  A word begins at the first position of the text from `b` on,
  because no word goes on across `b`.
-/
theorem local_wordStart : Local wordStart := by
  intro prose b hBreak c
  have hPrevious :
      (b.within c).previous?.any Text.isAlphanumeric =
        c.previous?.any Text.isAlphanumeric := by
    by_cases hFirst : c.position = 0
    · have hStart : c = Cursor.start b.suffix :=
        Cursor.eq_of_position_eq hFirst
      have hNone : (Cursor.start b.suffix).previous? = none :=
        if_pos rfl
      rw [hStart, Cursor.within_start, hNone, Option.any_none,
        Option.any_eq_false]
      intro a ha
      exact hBreak a ha
    · rw [Cursor.previous?_within c hFirst]
  simp only [wordStart]
  rw [hPrevious]
  cases c.previous?.any Text.isAlphanumeric with
  | true => rfl
  | false => rfl

theorem local_wordEnd : Local wordEnd := by
  intro prose b hBreak c
  simp only [wordEnd]
  rw [Cursor.peek?_within]
  cases c.peek?.any Text.isAlphanumeric with
  | true => rfl
  | false => rfl

theorem local_rest : Local rest := by
  intro prose b hBreak c
  simp only [rest]
  rw [Cursor.rest_within, ← Cursor.within_stop]
  rfl

theorem local_atEnd : Local atEnd := by
  intro prose b hBreak c
  simp only [atEnd]
  rw [Cursor.atEnd_within]
  cases c.atEnd with
  | true => rfl
  | false => rfl

theorem local_pure
    {a : α}
    (hFixed : ∀ offset, Shift.shifted a offset = a) :
    Local (pure a) := by
  intro prose b hBreak c
  exact congrArg (fun a => some (a, b.within c))
    (hFixed b.position).symm

theorem local_failure : Local (failure : Parser α) := by
  intro prose b hBreak c
  rfl

------------------------------------------------------------
-- Sequence and Choice
------------------------------------------------------------

section Combinators

variable
  {p q : Parser α}
  {s : Parser β}
  {t : Parser γ}
  (hp : Local p)
  (hq : Local q)
  (hs : Local s)
  (ht : Local t)

include hp

include hs in
theorem Local.zip :
    Local ((fun a b => (a, b)) <$> p <*> s) := by
  intro prose b hBreak c
  rw [run_seq, run_seq, run_map, run_map, hp b hBreak]
  cases p.run c with
  | none => rfl
  | some reply =>
      obtain ⟨a, m⟩ := reply
      dsimp only [Option.map_some, Option.bind_some, placed]
      rw [hs b hBreak]
      cases s.run m with
      | none => rfl
      | some reply => rfl

theorem Local.map
    {f : α → β}
    (hBlind : ∀ a offset,
      f (Shift.shifted a offset) = Shift.shifted (f a) offset) :
    Local (f <$> p) := by
  intro prose b hBreak c
  rw [run_map, run_map, hp b hBreak]
  cases p.run c with
  | none => rfl
  | some reply =>
      dsimp only [Option.map_some, placed]
      rw [hBlind]

theorem Local.filterMap
    {f : α → Option β}
    (hBlind : ∀ a offset,
      f (Shift.shifted a offset) = Shift.shifted (f a) offset) :
    Local (p.filterMap f) := by
  intro prose b hBreak c
  rw [run_filterMap, run_filterMap, hp b hBreak]
  cases p.run c with
  | none => rfl
  | some reply =>
      dsimp only [Option.map_some, Option.bind_some, placed]
      rw [hBlind]
      cases f reply.1 with
      | none => rfl
      | some value => rfl

include hq in
theorem Local.orElse : Local (p <|> q) := by
  intro prose b hBreak c
  rw [run_orElse, run_orElse, hp b hBreak, hq b hBreak]
  cases p.run c with
  | none => rfl
  | some reply => rfl

theorem Local.optional : Local p.optional := by
  intro prose b hBreak c
  rw [run_optional, run_optional, hp b hBreak]
  cases p.run c with
  | none => rfl
  | some reply => rfl

theorem Local.located : Local p.located := by
  intro prose b hBreak c
  rw [run_located, run_located, hp b hBreak]
  cases p.run c with
  | none => rfl
  | some reply => rfl

------------------------------------------------------------
-- Repetition and Search
------------------------------------------------------------

/- Each turn of the repetition is the same in both texts. -/
theorem repeatFrom_within
    {prose : Prose}
    {b : Cursor prose}
    (hBreak : b.Breaks)
    (c : Cursor b.suffix)
    (found : List α) :
    p.repeatFrom (b.within c)
        (Shift.shifted found b.position) =
      placed b (p.repeatFrom c found) := by
  fun_induction repeatFrom p c found with
  | case1 c found hNone =>
      rw [repeatFrom, hp b hBreak, hNone]
      exact congrArg (fun as => (as, b.within c))
        List.map_reverse.symm
  | case2 c found a next hRun hMoves ih =>
      rw [repeatFrom, hp b hBreak, hRun]
      dsimp only [Option.map_some, placed]
      rw [if_pos ((Cursor.position_within_lt_iff c next).mpr
        hMoves)]
      exact ih
  | case3 c found a next hRun hStays =>
      rw [repeatFrom, hp b hBreak, hRun]
      dsimp only [Option.map_some, placed]
      rw [if_neg (mt (Cursor.position_within_lt_iff c next).mp
        hStays)]
      exact congrArg (fun as => (as, b.within c))
        List.map_reverse.symm

theorem Local.repeated : Local p.repeated := by
  intro prose b hBreak c
  exact congrArg some (repeatFrom_within hp hBreak c [])

include hs in
/- A list with separators stands in the whole text as well. -/
theorem Listed.within
    {prose : Prose}
    {b : Cursor prose}
    (hBreak : b.Breaks)
    {before c last : Cursor b.suffix}
    {as : List α}
    (hListed : Listed p s before c as last) :
    Listed p s (b.within before) (b.within c)
      (Shift.shifted as b.position) (b.within last) := by
  induction hListed with
  | stop hNone =>
      refine .stop ?_
      rw [hp b hBreak, hNone]
      rfl
  | @last before c r a hRun hNone =>
      refine .last (a := Shift.shifted a b.position) ?_ ?_
      · rw [hp b hBreak, hRun]
        rfl
      · rw [hs b hBreak, hNone]
        rfl
  | @more before c after next r a d as hRun hSeparator hMore ih =>
      refine .more (a := Shift.shifted a b.position)
        (b := Shift.shifted d b.position) ?_ ?_ ih
      · rw [hp b hBreak, hRun]
        rfl
      · rw [hs b hBreak, hSeparator]
        rfl

include hs in
/- No other list stands there. -/
theorem exists_listed_of_within
    {prose : Prose}
    {b : Cursor prose}
    (hBreak : b.Breaks)
    {before c : Cursor b.suffix}
    {stop : Cursor prose}
    {as : List α}
    (hListed :
      Listed p s (b.within before) (b.within c) as stop) :
    ∃ found last, Listed p s before c found last ∧
      (as, stop) = placed b (found, last) := by
  generalize hBefore : b.within before = whole at hListed
  generalize hHere : b.within c = here at hListed
  induction hListed generalizing before c with
  | stop hNone =>
      subst hBefore hHere
      rw [hp b hBreak, Option.map_eq_none_iff] at hNone
      exact ⟨[], before, .stop hNone, rfl⟩
  | last hRun hNone =>
      subst hBefore hHere
      rw [hp b hBreak] at hRun
      rcases Option.map_eq_some_iff.mp hRun with
        ⟨⟨a, after⟩, hFirst, hEq⟩
      cases hEq
      rw [hs b hBreak, Option.map_eq_none_iff] at hNone
      exact ⟨[a], after, .last hFirst hNone, rfl⟩
  | more hRun hSeparator hMore ih =>
      subst hBefore hHere
      rw [hp b hBreak] at hRun
      rcases Option.map_eq_some_iff.mp hRun with
        ⟨⟨a, after⟩, hFirst, hEq⟩
      cases hEq
      rw [hs b hBreak] at hSeparator
      rcases Option.map_eq_some_iff.mp hSeparator with
        ⟨⟨d, next⟩, hMark, hEq⟩
      cases hEq
      rcases ih rfl rfl with ⟨found, last, hListed, hEq⟩
      cases hEq
      exact ⟨a :: found, last, .more hFirst hMark hListed, rfl⟩

include hs ht in
theorem Local.separated : Local (separated p s t) := by
  intro prose b hBreak c
  apply Option.ext
  rintro ⟨as, r⟩
  rw [run_separated_eq_some, Option.map_eq_some_iff]
  constructor
  · rintro ⟨stop, hWhole, e, hEnd⟩
    rcases exists_listed_of_within hp hs hBreak hWhole with
      ⟨found, last, hListed, hEq⟩
    cases hEq
    rw [ht b hBreak] at hEnd
    rcases Option.map_eq_some_iff.mp hEnd with
      ⟨⟨d, rest⟩, hStop, hEq⟩
    cases hEq
    exact
      ⟨(found, rest),
        run_separated_eq_some.mpr ⟨last, hListed, d, hStop⟩, rfl⟩
  · rintro ⟨⟨found, rest⟩, hRun, hEq⟩
    cases hEq
    rcases run_separated_eq_some.mp hRun with
      ⟨last, hListed, d, hStop⟩
    refine
      ⟨b.within last, hListed.within hp hs hBreak,
        Shift.shifted d b.position, ?_⟩
    rw [ht b hBreak, hStop]
    rfl

/- A search passes over the same places. -/
theorem seekFrom_within
    {prose : Prose}
    {b : Cursor prose}
    (hBreak : b.Breaks)
    (c : Cursor b.suffix) :
    p.seekFrom (b.within c) =
      (p.seekFrom c).map fun (found, reply) =>
        (b.within found, placed b reply) := by
  fun_induction seekFrom p c with
  | case1 c a rest hRun =>
      rw [seekFrom, hp b hBreak, hRun]
      rfl
  | case2 c hNone a following hNext ih =>
      rw [seekFrom, hp b hBreak, hNone]
      dsimp only [Option.map_none]
      split
      · rename_i step other hOther
        rw [Cursor.next?_within, hNext] at hOther
        cases hOther
        exact ih
      · rename_i hOther
        rw [Cursor.next?_within, hNext] at hOther
        cases hOther
  | case3 c hNone hNext =>
      rw [seekFrom, hp b hBreak, hNone]
      dsimp only [Option.map_none]
      split
      · rename_i step other hOther
        rw [Cursor.next?_within, hNext] at hOther
        cases hOther
      · rfl

theorem Local.seek : Local p.seek := by
  intro prose b hBreak c
  rw [run_seek, run_seek, seekFrom_within hp hBreak]
  cases p.seekFrom c with
  | none => rfl
  | some found =>
      dsimp only [Option.map_some, placed]
      rw [Cursor.textUntil_within]
      rfl

end Combinators

------------------------------------------------------------
-- Parsers Put Together by a Plan
------------------------------------------------------------

namespace Plan

/- A parser is local if its functions do not look at spans. -/
theorem isLocal
    {α : Type}
    [Shift α]
    (p : Plan α)
    (hBlind : p.SpanBlind) :
    Local p.parser := by
  induction p with
  | character accept => exact local_character accept
  | literal expected => exact local_literal expected
  | wordStart => exact local_wordStart
  | wordEnd => exact local_wordEnd
  | rest => exact local_rest
  | atEnd => exact local_atEnd
  | nothing => exact local_pure fun offset => rfl
  | never => exact local_failure
  | zip p q hp hq => exact Local.zip (hp hBlind.1) (hq hBlind.2)
  | or p q hp hq => exact Local.orElse (hp hBlind.1) (hq hBlind.2)
  | optional p hp => exact Local.optional (hp hBlind)
  | map f p hp => exact Local.map (hp hBlind.2) hBlind.1
  | filterMap f p hp => exact Local.filterMap (hp hBlind.2) hBlind.1
  | repeated p hp => exact Local.repeated (hp hBlind)
  | separated element separator terminator hp hs ht =>
      exact Local.separated (hp hBlind.1) (hs hBlind.2.1)
        (ht hBlind.2.2)
  | seek p hp => exact Local.seek (hp hBlind)
  | located p hp => exact Local.located (hp hBlind)

/-
  From a position on at which no word goes on, a parser reads a
  text as it reads the rest of it as a text of its own: both
  times without an answer, or with as many characters and the
  same value but for its spans, which are moved.
-/
theorem run_eq_run_suffix
    (p : Plan α)
    (hBlind : p.SpanBlind)
    {prose : Prose}
    (b : Cursor prose)
    (hBreak : b.Breaks) :
    p.parser.run b = none ∧
        p.parser.run (Cursor.start b.suffix) = none ∨
      ∃ (a : α) (r : Cursor prose) (s : Cursor b.suffix),
        p.parser.run b =
            some (Shift.shifted a b.position, r) ∧
          p.parser.run (Cursor.start b.suffix) = some (a, s) ∧
          r.position = b.position + s.position := by
  have hRun := p.isLocal hBlind b hBreak (Cursor.start b.suffix)
  rw [Cursor.within_start] at hRun
  rw [hRun]
  cases p.parser.run (Cursor.start b.suffix) with
  | none => exact Or.inl ⟨rfl, rfl⟩
  | some reply =>
      obtain ⟨a, s⟩ := reply
      exact Or.inr
        ⟨a, b.within s, s, rfl, rfl, Nat.add_comm ..⟩

theorem spanBlind_number : number.SpanBlind := by
  have hDigits : ∀ (digits : List Char) (offset : Nat),
      Shift.shifted digits offset = digits :=
    fun digits offset => List.map_id' digits
  refine ⟨?_, ?_, ?_, trivial⟩
  · intro digits offset
    exact Option.map_id'.symm
  · intro digits offset
    rw [hDigits]
    rfl
  · intro digits offset
    rw [hDigits]
    dsimp only
    split
    · exact congrArg some (hDigits digits offset).symm
    · rfl

/- The numbers of a list are read in place as on their own. -/
theorem run_eq_run_suffix_locatedNumbers :
    locatedNumbers.SpanBlind ∧
      ∃ b : Cursor (Prose.ofString "x 1,2,"),
        b.Breaks ∧
          ∃ (a : List (Located UInt32)) (r : Cursor _)
            (s : Cursor b.suffix),
            locatedNumbers.parser.run b =
                some (Shift.shifted a b.position, r) ∧
              locatedNumbers.parser.run (Cursor.start b.suffix) =
                some (a, s) ∧
              r.position = b.position + s.position := by
  have hBlind : locatedNumbers.SpanBlind :=
    ⟨spanBlind_number, trivial, trivial⟩
  let b : Cursor (Prose.ofString "x 1,2,") := ⟨2, by decide⟩
  have hBreak : b.Breaks := by decide +kernel
  refine ⟨hBlind, b, hBreak, ?_⟩
  refine (run_eq_run_suffix locatedNumbers hBlind b
    hBreak).resolve_left ?_
  rintro ⟨hNone, -⟩
  exact absurd hNone (by decide +kernel)

end Plan

end Parser

end CreatureProse
