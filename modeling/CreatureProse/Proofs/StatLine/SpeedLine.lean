import CreatureProse.Proofs.Ordered.Map
import CreatureProse.Proofs.Parser.Numeral
import CreatureProse.Proofs.StatLine.SpeedEntry

/-
  The lines that are read as speeds, and how much of a line that
  is written well is read.

  Main declarations:
    * `Movement.Line`
    * `Movement.AcceptedLine`
    * `Movement.ofString_reads_accepted`
    * `Movement.ofString_written`
-/

namespace CreatureProse.Movement

open CreatureProse.Parser

variable {prose : Prose} {c r : Cursor prose}

------------------------------------------------------------
-- Lines
------------------------------------------------------------

/- Entries with commas between them. -/
inductive Line :
    List Char → List (MovementMode × UInt32) → Prop where
| last
    {cs : List Char}
    {e : MovementMode × UInt32}
    (hEntry : Entry cs e) :
    Line cs [e]
| more
    {cs comma rest : List Char}
    {e : MovementMode × UInt32}
    {es : List (MovementMode × UInt32)}
    (hEntry : Entry cs e)
    (hComma : Comma comma)
    (hMore : Line rest es) :
    Line (cs ++ (comma ++ rest)) (e :: es)

/-
  A line as it is accepted: entries that are, each with what
  ends it, so that there may be a comma after the last one.
-/
inductive AcceptedLine :
    List Char → List (MovementMode × UInt32) → Prop where
| last
    {cs ending : List Char}
    {e : MovementMode × UInt32}
    (hEntry : Accepted cs e)
    (hEnding : Ending ending []) :
    AcceptedLine (cs ++ ending) [e]
| more
    {cs ending rest : List Char}
    {e : MovementMode × UInt32}
    {es : List (MovementMode × UInt32)}
    (hEntry : Accepted cs e)
    (hEnding : Ending ending rest)
    (hMore : AcceptedLine rest es) :
    AcceptedLine (cs ++ (ending ++ rest)) (e :: es)

theorem AcceptedLine.ne_nil
    {cs : List Char}
    {es : List (MovementMode × UInt32)}
    (hLine : AcceptedLine cs es) :
    es ≠ [] := by
  cases hLine with
  | last hEntry hEnding => exact List.cons_ne_nil _ _
  | more hEntry hEnding hMore => exact List.cons_ne_nil _ _

theorem Line.notNext
    {cs : List Char}
    {es : List (MovementMode × UInt32)}
    (hLine : Line cs es) :
    NotNext isGap cs := by
  cases hLine with
  | last hEntry =>
      have hNext := hEntry.notNext []
      rwa [List.append_nil] at hNext
  | more hEntry hComma hMore => exact hEntry.notNext _

/- A line that is written well is accepted. -/
theorem Line.accepted
    {cs : List Char}
    {es : List (MovementMode × UInt32)}
    (hLine : Line cs es) :
    AcceptedLine cs es := by
  induction hLine with
  | @last cs e hEntry =>
      have hLast := AcceptedLine.last hEntry.accepted .stop
      rwa [List.append_nil] at hLast
  | more hEntry hComma hMore ih =>
      exact .more hEntry.accepted (.comma hComma hMore.notNext) ih

/- Nothing but words, gaps, commas and stops is written well. -/
theorem Line.isLineLetter
    {cs : List Char}
    {es : List (MovementMode × UInt32)}
    (hLine : Line cs es) :
    ∀ a ∈ cs, Movement.isLineLetter a = true := by
  induction hLine with
  | last hEntry => exact hEntry.isLineLetter
  | more hEntry hComma hMore ih =>
      intro a ha
      rcases List.mem_append.mp ha with hMem | hRest
      · exact hEntry.isLineLetter a hMem
      · rcases List.mem_append.mp hRest with hMem | hMem
        · exact hComma.isLineLetter a hMem
        · exact ih a hMem

/- An entry that is accepted is read, and takes the line on. -/
theorem Accepted.run
    {cs ending : List Char}
    {e : MovementMode × UInt32}
    (hEntry : Accepted cs e)
    (hEnding : Ending ending r.ahead)
    (hAhead : c.ahead = cs ++ (ending ++ r.ahead)) :
    speedParser.run c = some (e, r) ∧ c.position < r.position := by
  refine ⟨hEntry.run_speedParser hEnding hAhead, ?_⟩
  rw [← List.append_assoc] at hAhead
  exact Cursor.position_lt_of_ahead_eq hAhead
    (List.append_ne_nil_of_left_ne_nil hEntry.ne_nil ending)

/- Speeds are read to the end of what is accepted as a line. -/
theorem chain_speedParser_iff
    {es : List (MovementMode × UInt32)} :
    es ≠ [] ∧ Chain speedParser c es (Cursor.stop prose) ↔
      AcceptedLine c.ahead es := by
  constructor
  · rintro ⟨hNe, hChain⟩
    generalize hStop : Cursor.stop prose = r at hChain
    induction hChain with
    | nil => exact absurd rfl hNe
    | @cons c m r e more hRun hMoves hMore ih =>
        rcases accepted_of_run_speedParser hRun with
          ⟨cs, ending, hEntry, hEnding, hAhead⟩
        rw [hAhead]
        cases hMore with
        | nil =>
            rw [← hStop, Cursor.ahead_stop] at hEnding ⊢
            rw [List.append_nil]
            exact .last hEntry hEnding
        | cons hNext hNextMoves hRest =>
            exact .more hEntry hEnding
              (ih (List.cons_ne_nil _ _) hStop)
  · intro hLine
    generalize hAhead : c.ahead = text at hLine
    induction hLine generalizing c with
    | @last cs ending e hEntry hEnding =>
        have hStop : (Cursor.stop prose).ahead = [] :=
          Cursor.ahead_stop
        rw [← hStop] at hEnding
        have hRead := hEntry.run hEnding (c := c) (by
          rw [hAhead, Cursor.ahead_stop, List.append_nil])
        exact
          ⟨List.cons_ne_nil _ _, .cons hRead.1 hRead.2 .nil⟩
    | @more cs ending rest e es hEntry hEnding hMore ih =>
        rw [← List.append_assoc] at hAhead
        rcases Cursor.exists_of_ahead_eq_append hAhead with ⟨m, hM⟩
        rw [← hM] at hEnding
        have hRead := hEntry.run hEnding (c := c) (by
          rw [hAhead, hM, List.append_assoc])
        exact
          ⟨List.cons_ne_nil _ _,
            .cons hRead.1 hRead.2 (ih hM).2⟩

------------------------------------------------------------
-- Speeds
------------------------------------------------------------

/- The speed of the first entry with a mode. -/
def speedOf
    (mode : MovementMode)
    (es : List (MovementMode × UInt32)) : Option UInt32 :=
  (es.find? fun e => decide (e.1 = mode)).map Prod.snd

theorem get?_foldl_insertNew
    (es : List (MovementMode × UInt32))
    (m : Movement)
    (mode : MovementMode) :
    (es.foldl (fun m e => m.insertNew e.1 e.2) m).get? mode =
      (m.get? mode).or (speedOf mode es) := by
  induction es generalizing m with
  | nil => exact (Option.or_none ..).symm
  | cons e es ih =>
      rw [List.foldl_cons, ih, OrderedMap.get?_insertNew,
        Option.or_assoc, speedOf, speedOf, List.find?_cons]
      by_cases hMode : e.1 = mode
      · simp [hMode]
      · simp [hMode]

theorem get?_ofSpeeds
    (es : List (MovementMode × UInt32))
    (mode : MovementMode) :
    (ofSpeeds es).get? mode = speedOf mode es :=
  get?_foldl_insertNew es .empty mode

/- What is found in a map is the speed of its entry. -/
theorem speedOf_entries
    (m : Movement)
    (mode : MovementMode) :
    speedOf mode m.entries = m.get? mode := by
  simp only [speedOf, OrderedMap.get?, OrderedMap.compare_beq_eq,
    eq_comm (a := mode)]

/- There are speeds unless there is nothing to read them from. -/
theorem ofSpeeds_ne_empty
    {es : List (MovementMode × UInt32)}
    (hNe : es ≠ []) :
    ofSpeeds es ≠ .empty := by
  intro hEmpty
  rcases List.exists_cons_of_ne_nil hNe with ⟨e, more, rfl⟩
  have hNone : (ofSpeeds (e :: more)).get? e.1 = none := by
    rw [hEmpty]
    rfl
  rw [get?_ofSpeeds, speedOf, List.find?_cons] at hNone
  simp at hNone

/- A line is read to its end or not at all. -/
theorem value?_parser_eq_some
    {m : Movement} :
    parser.value? prose = some m ↔
      ∃ es, Chain speedParser (Cursor.start prose) es
        (Cursor.stop prose) ∧ ofSpeeds es = m := by
  rw [Parser.value?, Option.map_eq_some_iff]
  constructor
  · rintro ⟨⟨m, d⟩, hRun, rfl⟩
    rcases run_map_eq_some.mp hRun with ⟨es, hLeft, rfl⟩
    rcases run_seqLeft_eq_some.mp hLeft with ⟨k, hChain, u, hEnd⟩
    have hStop : k = Cursor.stop prose :=
      Cursor.eq_of_position_eq
        (beq_iff_eq.mp (run_atEnd_eq_some.mp hEnd).1)
    rw [hStop] at hChain
    exact ⟨es, (run_repeated_eq_some.mp hChain).1, rfl⟩
  · rintro ⟨es, hChain, rfl⟩
    have hStuck : Stuck speedParser (Cursor.stop prose) :=
      fun e d _ => d.position_le
    have hEnd :
        atEnd.run (Cursor.stop prose) =
          some ((), Cursor.stop prose) :=
      run_atEnd_eq_some.mpr ⟨beq_self_eq_true prose.size, rfl⟩
    refine ⟨(ofSpeeds es, Cursor.stop prose), ?_, rfl⟩
    exact run_map_eq_some.mpr
      ⟨es, run_seqLeft_eq_some.mpr
        ⟨_, run_repeated_eq_some.mpr ⟨hChain, hStuck⟩, (), hEnd⟩,
        rfl⟩

/- A line that is accepted is read as the speeds in it. -/
theorem ofString_eq_ofSpeeds
    {s : String}
    {es : List (MovementMode × UInt32)}
    (hLine : AcceptedLine s.toList es) :
    ofString s = ofSpeeds es := by
  have hChain := (chain_speedParser_iff
    (c := Cursor.start (Prose.ofString s))).mpr hLine
  rw [ofString, value?_parser_eq_some.mpr ⟨es, hChain.2, rfl⟩]
  rfl

/- Speeds are read only from a line that is accepted. -/
theorem exists_acceptedLine
    {s : String}
    (hNe : ofString s ≠ .empty) :
    ∃ es, AcceptedLine s.toList es := by
  rw [ofString] at hNe
  cases hValue : parser.value? (Prose.ofString s) with
  | none =>
      rw [hValue] at hNe
      exact absurd rfl hNe
  | some m =>
      rcases value?_parser_eq_some.mp hValue with
        ⟨es, hChain, rfl⟩
      refine ⟨es, chain_speedParser_iff.mp ⟨?_, hChain⟩⟩
      rintro rfl
      rw [hValue] at hNe
      exact absurd rfl hNe

/-
  Whether there are speeds in a text depends on it being a line
  that is accepted, and every speed of such a line is the first
  of its mode. Lines that are written well are accepted.
-/
theorem ofString_reads_accepted
    (s : String) :
    (ofString s ≠ .empty ↔ ∃ es, AcceptedLine s.toList es) ∧
      (∀ es, AcceptedLine s.toList es →
        ∀ mode, (ofString s).get? mode = speedOf mode es) ∧
      ∀ es, Line s.toList es → AcceptedLine s.toList es := by
  refine ⟨⟨exists_acceptedLine, ?_⟩, ?_, fun es => Line.accepted⟩
  · rintro ⟨es, hLine⟩
    rw [ofString_eq_ofSpeeds hLine]
    exact ofSpeeds_ne_empty hLine.ne_nil
  · intro es hLine mode
    rw [ofString_eq_ofSpeeds hLine, get?_ofSpeeds]

/- The search for a unit passes over a remark and a speed. -/
theorem not_line_of_speeds :
    ¬ ∀ s, ofString s ≠ .empty →
      ∃ es, Line s.toList es ∧
        ∀ mode, (ofString s).get? mode = speedOf mode es := by
  intro hAll
  rcases hAll "30 ft (hover), fly 60 ft." (by decide +kernel) with
    ⟨es, hLine, -⟩
  have hBracket : '(' ∈ "30 ft (hover), fly 60 ft.".toList := by
    decide
  exact absurd (hLine.isLineLetter '(' hBracket) (by decide)

------------------------------------------------------------
-- Lines That Are Written Well
------------------------------------------------------------

/- A speed with or without its mode, which is in front or behind. -/
inductive Written where
| walking (n : UInt32)
| labelFirst (mode : MovementMode) (n : UInt32)
| labelLast (n : UInt32) (mode : MovementMode)
deriving DecidableEq

/- The text of a speed. -/
def Written.text : Written → String
| .walking n => toString n.toNat ++ " ft."
| .labelFirst mode n =>
  mode.name ++ " " ++ toString n.toNat ++ " ft."
| .labelLast n mode =>
  toString n.toNat ++ " ft. " ++ mode.name

/- The mode of a speed and its number of feet. -/
def Written.speed : Written → MovementMode × UInt32
| .walking n => (.walk, n)
| .labelFirst mode n => (mode, n)
| .labelLast n mode => (mode, n)

/- Speeds with commas between them. -/
def writtenLine (speeds : List Written) : String :=
  ", ".intercalate (speeds.map Written.text)

theorem measure_toString
    (n : UInt32) :
    Measure Spacing ((toString n.toNat).toList ++ " ft.".toList)
      n := by
  have hSpace : Spacing [' '] := by
    intro a ha
    rw [List.mem_singleton.mp ha]
    rfl
  exact .mk (numeral_toString n) hSpace

theorem label_name
    (mode : MovementMode) :
    Label mode.name.toList mode := by
  have hWord : mode.name.toList.all isWordLetter = true := by
    cases mode <;> decide
  constructor
  · exact List.all_eq_true.mp hWord
  · rw [String.ofList_toList]
    cases mode <;> decide

theorem Written.entry
    (e : Written) :
    Entry e.text.toList e.speed := by
  cases e with
  | walking n =>
      rw [text, String.toList_append]
      exact .unlabeled (measure_toString n)
  | labelFirst mode n =>
      have hEntry :=
        Entry.labelFirst (label_name mode) (measure_toString n)
      rw [text, String.toList_append, String.toList_append,
        String.toList_append, List.append_assoc, List.append_assoc]
      exact hEntry
  | labelLast n mode =>
      have hEntry :=
        Entry.labelLast (measure_toString n) (label_name mode)
      rw [List.append_assoc] at hEntry
      rw [text, String.toList_append, String.toList_append,
        List.append_assoc]
      exact hEntry

theorem comma_written : Comma ", ".toList :=
  @Comma.mk [] [' '] (List.forall_mem_nil _)
    (List.forall_mem_singleton.mpr (by decide))

theorem line_writtenLine
    (e : Written)
    (more : List Written) :
    Line (writtenLine (e :: more)).toList
      ((e :: more).map Written.speed) := by
  induction more generalizing e with
  | nil => exact .last e.entry
  | cons d more ih =>
      have hText :
          writtenLine (e :: d :: more) =
            e.text ++ (", " ++ writtenLine (d :: more)) := by
        rw [writtenLine, writtenLine, List.map_cons, List.map_cons,
          String.intercalate_cons_cons, String.append_assoc]
      rw [hText, String.toList_append, String.toList_append]
      exact .more e.entry comma_written (ih d)

/-
  Every line of speeds is read as the first speed of each mode,
  and every map is read again from the line of its entries.
-/
theorem ofString_written :
    (∀ (speeds : List Written) (mode : MovementMode),
      (ofString (writtenLine speeds)).get? mode =
        speedOf mode (speeds.map Written.speed)) ∧
      ∀ m : Movement,
        ofString (writtenLine
          (m.entries.map fun e => .labelFirst e.1 e.2)) = m := by
  have hFirst
      (speeds : List Written)
      (mode : MovementMode) :
      (ofString (writtenLine speeds)).get? mode =
        speedOf mode (speeds.map Written.speed) := by
    cases speeds with
    | nil =>
        have hChain :
            Chain speedParser (Cursor.start (Prose.ofString "")) []
              (Cursor.stop (Prose.ofString "")) :=
          .nil
        have hNone : ofString "" = ofSpeeds [] := by
          rw [ofString, value?_parser_eq_some.mpr ⟨[], hChain, rfl⟩]
          rfl
        exact congrArg (OrderedMap.get? · mode) hNone
    | cons e more =>
        rw [ofString_eq_ofSpeeds (line_writtenLine e more).accepted,
          get?_ofSpeeds]
  refine ⟨hFirst, fun m => OrderedMap.eq_of_get? fun mode => ?_⟩
  have hSpeeds :
      (m.entries.map fun e => Written.labelFirst e.1 e.2).map
        Written.speed = m.entries := by
    rw [List.map_map]
    exact List.map_id' _
  rw [hFirst, hSpeeds, speedOf_entries]

end CreatureProse.Movement
