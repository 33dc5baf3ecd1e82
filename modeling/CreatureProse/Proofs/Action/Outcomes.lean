import CreatureProse.Action.Save
import CreatureProse.Proofs.Action.Clauses
import CreatureProse.Proofs.Action.Shape
import CreatureProse.Proofs.Span
import CreatureProse.Proofs.Text.Split

/-
  The outcomes of a saving throw. The labels cut the body into
  blocks, which leave no character behind the first label out.
  An outcome is reported for each label whose block has more in
  it than stops, in the order of the text and with its kind.

  Main declarations:
    * `SaveAction.sections`
    * `SaveAction.tiles_pieces`
    * `SaveAction.blockEffects_eq_nil_iff`
    * `SaveAction.Partition`
    * `SaveAction.partition_of_ofProse?`
-/

namespace CreatureProse

open CreatureProse.Parser Clause

namespace SaveAction

variable {vocabulary : Vocabulary}

------------------------------------------------------------
-- Labels
------------------------------------------------------------

/- A label has a colon in it, so it is never empty. -/
theorem lt_of_run_labelParser
    {prose : Prose}
    {c r : Cursor prose}
    {kind : OutcomeKind}
    (hRun : labelParser.run c = some (kind, r)) :
    c.position < r.position := by
  rcases run_seqLeft_eq_some.mp hRun with
    ⟨m, hLabel, blank, hAfter⟩
  rcases run_seqLeft_eq_some.mp hLabel with
    ⟨n, hPhrase, colon, hColon⟩
  have hStart := Forward.le hPhrase
  have hEnd := Forward.le hAfter
  have hPosition :=
    Cursor.position_of_ahead_eq_cons
      (run_char_eq_some.mp hColon).2
  omega

theorem inOrder_labels (body : Prose) :
    Span.InOrder ((labels body).map Located.span) 0 body.size :=
  allIn_inOrder lt_of_run_labelParser

------------------------------------------------------------
-- Blocks
------------------------------------------------------------

/- Each label with the span of the block that belongs to it. -/
def sections
    (body : Prose) :
    List (Located OutcomeKind) → List (Located OutcomeKind × Span)
| [] => []
| [last] => [(last, ⟨last.span.stop, body.size⟩)]
| label :: next :: more =>
  (label, ⟨label.span.stop, next.span.start⟩)
    :: sections body (next :: more)

/- The spans of labels and blocks as they follow one another. -/
def pieces
    (parts : List (Located OutcomeKind × Span)) : List Span :=
  parts.flatMap fun (label, block) => [label.span, block]

/- The text of the block of a label. -/
def blockText
    (body : Prose)
    (part : Located OutcomeKind × Span) : String :=
  body.slice part.2.start part.2.stop

theorem sections_fst
    (body : Prose)
    (found : List (Located OutcomeKind)) :
    (sections body found).map Prod.fst = found := by
  fun_induction sections body found with
  | case1 => rfl
  | case2 last => rfl
  | case3 label next more ih => rw [List.map_cons, ih]

theorem blocks_eq
    (body : Prose)
    (found : List (Located OutcomeKind)) :
    blocks body found =
      (sections body found).map fun part =>
        (part.1.value, blockText body part) := by
  fun_induction sections body found with
  | case1 => rfl
  | case2 last => rfl
  | case3 label next more ih =>
      rw [blocks, List.map_cons, ih]
      rfl

/- Labels and blocks fill the body from the first label on. -/
theorem tiles_pieces
    {body : Prose}
    {first : Located OutcomeKind}
    {more : List (Located OutcomeKind)}
    {low : Nat}
    (hOrder :
      Span.InOrder ((first :: more).map Located.span) low
        body.size) :
    Span.Tiles (pieces (sections body (first :: more)))
      first.span.start body.size := by
  induction more generalizing first low with
  | nil =>
      rcases hOrder with ⟨-, hLabel, hEnd⟩
      exact ⟨rfl, Nat.le_of_lt hLabel, rfl, hEnd, rfl⟩
  | cons next more ih =>
      rcases hOrder with ⟨-, hLabel, hMore⟩
      exact
        ⟨rfl, Nat.le_of_lt hLabel, rfl, hMore.1, ih hMore⟩

------------------------------------------------------------
-- Content of a Block
------------------------------------------------------------

/- Whether a block has more in it than blank space and stops. -/
def hasContent (block : String) : Bool :=
  residue (Text.trim block) != ""

theorem residue_trim_eq_empty_iff
    {block : String} :
    residue (Text.trim block) = "" ↔
      ∀ a ∈ (Text.trim block).toList, isStop a = true := by
  have hTrim := Text.trim_trim block
  rw [Text.trim, ← String.toList_inj, String.toList_ofList]
    at hTrim
  rw [residue, hTrim, ← String.toList_inj, String.toList_ofList]
  exact Text.trimWhere_eq_nil_iff

/- A block with content is one with a character that counts. -/
theorem hasContent_iff
    {block : String} :
    hasContent block = true ↔
      ∃ a ∈ (Text.trim block).toList, isStop a = false := by
  rw [hasContent, bne_iff_ne, ne_eq, residue_trim_eq_empty_iff]
  simp

/- To merge riders leaves an effect if there was one. -/
theorem mergeRidersInto_ne_nil
    {merged effects : List Effect}
    (hSome : merged ≠ [] ∨ effects ≠ []) :
    mergeRidersInto merged effects ≠ [] := by
  fun_induction mergeRidersInto merged effects with
  | case1 merged =>
      rw [ne_eq, List.reverse_eq_nil_iff]
      exact hSome.resolve_right fun hNe => hNe rfl
  | case2 e more rider last before hRider applied hApplied
      comment changed ih =>
      exact ih (Or.inl (List.cons_ne_nil _ _))
  | case3 e more rider last before hRider hNone ih =>
      exact ih (Or.inl (List.cons_ne_nil _ _))
  | case4 merged e more hOther ih =>
      exact ih (Or.inl (List.cons_ne_nil _ _))

/- A text of stops begins no clause, and is none as plain text. -/
theorem parse?_listParser_of_stops
    (vocabulary : Vocabulary)
    {text : String}
    (hStops : ∀ a ∈ text.toList, isStop a = true)
    (hResidue : residue text = "") :
    (Effect.listParser vocabulary).parse?
        (Prose.ofString text) = some ([], text) := by
  have hRest :
      (Cursor.start (Prose.ofString text)).rest = text := by
    rw [Cursor.rest_eq, Cursor.ahead_start]
    exact String.ofList_toList
  have hNext :
      NotNext Effect.notStop
        (Cursor.start (Prose.ofString text)).ahead := by
    intro a ha
    have hMem : a ∈ text.toList :=
      List.mem_of_mem_head? ha
    rw [Effect.notStop, hStops a hMem]
    rfl
  have hNone :
      Effect.textClause.run
        (Cursor.start (Prose.ofString text)) = none := by
    apply run_eq_none
    intro effects r hRun
    rcases run_filterMap_eq_some.mp hRun with ⟨s, hRead, hEq⟩
    rw [← (run_rest_eq_some.mp hRead).1, hRest, hResidue] at hEq
    cases hEq
  rw [← Effect.run_clauses_of_stop vocabulary hNext] at hNone
  rw [Parser.parse?, Effect.listParser, run_map,
    run_separated_eq_nil hNone]
  exact congrArg (fun left => some ([], left)) hRest

/- A text has no effect exactly if it is made of stops. -/
theorem untiedEffects_eq_nil_iff
    {block : String} :
    untiedEffects vocabulary (Text.trim block) = [] ↔
      residue (Text.trim block) = "" := by
  constructor
  · intro hNil
    unfold untiedEffects at hNil
    split at hNil
    · exact absurd hNil
        (mergeRidersInto_ne_nil (Or.inr (List.cons_ne_nil _ _)))
    · split at hNil
      · assumption
      · cases hNil
  · intro hResidue
    have hStops := residue_trim_eq_empty_iff.mp hResidue
    unfold untiedEffects
    rw [parse?_listParser_of_stops vocabulary hStops hResidue]
    dsimp only
    rw [hResidue]
    rfl

theorem blockEffects_eq_nil_iff
    {save : SavingThrow}
    {block : String} :
    blockEffects vocabulary save block = [] ↔
      hasContent block = false := by
  rw [hasContent, bne_eq_false_iff_eq]
  unfold blockEffects
  split
  · rename_i hBlank
    rw [hBlank]
    exact iff_of_true rfl (by decide)
  · rw [List.map_eq_nil_iff]
    exact untiedEffects_eq_nil_iff

------------------------------------------------------------
-- Outcomes
------------------------------------------------------------

/- The outcome of a label with its block. -/
def outcomeOf
    (vocabulary : Vocabulary)
    (save : SavingThrow)
    (body : Prose)
    (part : Located OutcomeKind × Span) : Outcome where
  kind := part.1.value
  effects := blockEffects vocabulary save (blockText body part)

/- There is an outcome for each label whose block has content. -/
theorem outcomesIn_eq
    (vocabulary : Vocabulary)
    (save : SavingThrow)
    (body : Prose) :
    outcomesIn vocabulary save body =
      ((sections body (labels body)).filter fun part =>
        hasContent (blockText body part)).map
          (outcomeOf vocabulary save body) := by
  rw [outcomesIn, blocks_eq, List.filterMap_map,
    ← List.filterMap_eq_map, List.filterMap_filter]
  refine congrArg
    (fun f => List.filterMap f (sections body (labels body))) ?_
  funext part
  have hNil :
      blockEffects vocabulary save (blockText body part) = [] ↔
        hasContent (blockText body part) = false :=
    blockEffects_eq_nil_iff
  dsimp only [Function.comp_apply]
  cases hEffects :
      blockEffects vocabulary save (blockText body part) with
  | nil =>
      rw [hNil.mp hEffects]
      rfl
  | cons e more =>
      have hContent : hasContent (blockText body part) = true := by
        rw [← Bool.not_eq_false, ← hNil, hEffects]
        exact List.cons_ne_nil e more
      rw [if_pos hContent, outcomeOf, hEffects]

/-
  What a body and the outcomes that are read from it have to do
  with each other.
-/
structure Partition
    (vocabulary : Vocabulary)
    (save : SavingThrow)
    (body : Prose)
    (outcomes : List Outcome) : Prop where
  readAt : ∀ label ∈ labels body, ReadAt labelParser body label
  complete :
    ∀ (c r : Cursor body) (kind : OutcomeKind),
      labelParser.run c = some (kind, r) →
        ∃ label ∈ labels body, label.span.start ≤ c.position ∧
          c.position < label.span.stop
  apart : ((labels body).map Located.span).Pairwise Span.Apart
  sections_fst :
    (sections body (labels body)).map Prod.fst = labels body
  blocks_eq :
    blocks body (labels body) =
      (sections body (labels body)).map fun part =>
        (part.1.value, blockText body part)
  tiles :
    ∃ first ∈ (labels body).head?,
      Span.Tiles (pieces (sections body (labels body)))
          first.span.start body.size ∧
        ((pieces (sections body (labels body))).flatMap fun s =>
            (body.extract s.start s.stop).toList) =
          (body.extract first.span.start body.size).toList
  outcomes_eq :
    outcomes =
      ((sections body (labels body)).filter fun part =>
        hasContent (blockText body part)).map
          (outcomeOf vocabulary save body)
  effects_ne_nil : ∀ o ∈ outcomes, o.effects ≠ []

theorem partition_outcomesIn
    {save : SavingThrow}
    {body : Prose}
    (hSome : outcomesIn vocabulary save body ≠ []) :
    Partition vocabulary save body
      (outcomesIn vocabulary save body) where
  readAt label hMem := readAt_of_mem_allIn hMem
  complete c r kind hRun :=
    exists_mem_allIn_of_run lt_of_run_labelParser hRun
  apart := (inOrder_labels body).pairwise_apart
  sections_fst := sections_fst body (labels body)
  blocks_eq := blocks_eq body (labels body)
  tiles := by
    have hOrder := inOrder_labels body
    cases hLabels : labels body with
    | nil =>
        rw [outcomesIn_eq, hLabels] at hSome
        exact absurd rfl hSome
    | cons first more =>
        rw [hLabels] at hOrder
        have hTiles := tiles_pieces hOrder
        exact ⟨first, rfl, hTiles, hTiles.flatMap_extract body⟩
  outcomes_eq := outcomesIn_eq vocabulary save body
  effects_ne_nil := by
    intro o ho
    rw [outcomesIn_eq, List.mem_map] at ho
    rcases ho with ⟨part, hMem, rfl⟩
    have hContent : hasContent (blockText body part) = true :=
      (List.mem_filter.mp hMem).2
    rw [outcomeOf, ne_eq, blockEffects_eq_nil_iff, hContent]
    decide

/-
  The outcomes of every action that is read make up a partition
  of what follows its header.
-/
theorem partition_of_ofProse?
    {prose : Prose}
    {s : SaveAction}
    (hRead : ofProse? vocabulary prose = some s) :
    ∃ target rest,
      headerParser.parse? prose =
          some ((s.save, target), rest) ∧
        Partition vocabulary s.save
          (Prose.ofString (Text.trim rest)) s.outcomes := by
  unfold ofProse? at hRead
  split at hRead
  · cases hRead
  · rename_i save target rest hHeader
    dsimp only at hRead
    split at hRead
    · cases hRead
    · rename_i outcomes hSome
      cases hRead
      have hParts := partition_outcomesIn hSome
      exact ⟨target, rest, hHeader, hParts⟩

/- A save with two labels, of which the first has no content. -/
def slipperyFloor : Prose :=
  Prose.ofString
    ("dexterity saving throw: dc 9, all. " ++
      "first failure: . second failure: a fall.")

/- The block of the first label is only a full stop. -/
theorem partition_of_ofProse?_slipperyFloor :
    ∃ s target rest,
      ofProse? .empty slipperyFloor = some s ∧
        headerParser.parse? slipperyFloor =
          some ((s.save, target), rest) ∧
        (labels (Prose.ofString (Text.trim rest))).map
            Located.value = [.firstFailure, .secondFailure] ∧
        s.outcomes.map Outcome.kind = [.secondFailure] ∧
        Partition .empty s.save
          (Prose.ofString (Text.trim rest)) s.outcomes := by
  have hRun :
      (ofProse? .empty slipperyFloor).map
          (fun s => s.outcomes.map Outcome.kind) =
        some [.secondFailure] := by
    decide +kernel
  have hCut :
      (headerParser.parse? slipperyFloor).map
          (fun reply =>
            (labels (Prose.ofString (Text.trim reply.2))).map
              Located.value) =
        some [.firstFailure, .secondFailure] := by
    decide +kernel
  rcases Option.map_eq_some_iff.mp hRun with ⟨s, hRead, hKinds⟩
  rcases partition_of_ofProse? hRead with
    ⟨target, rest, hHeader, hParts⟩
  rw [hHeader] at hCut
  exact
    ⟨s, target, rest, hRead, hHeader, Option.some.inj hCut,
      hKinds, hParts⟩

end SaveAction

end CreatureProse
