import CreatureProse.Proofs.Action.Clauses
import CreatureProse.Proofs.Action.DamageText
import CreatureProse.Proofs.Parser.Takes
import CreatureProse.Proofs.Text.Split

/-
  A save that only a target of a certain kind has to make. The
  gated clause reads as far as the clause alone and gives its
  first effect, tied to the kind. The effect of a margin, if the
  clause has one, is read and lost.

  Main declarations:
    * `SkipsBlanks`
    * `Effect.gated`
    * `Effect.exists_cons_of_parse?_mustSucceedClause`
    * `Effect.parse?_gated`
    * `Effect.parse?_gated_iff`
-/

namespace CreatureProse

open CreatureProse.Parser Clause

------------------------------------------------------------
-- Blanks in Front
------------------------------------------------------------

namespace Parser

variable {α β : Type}

/- A parser for which blanks in front make no difference. -/
structure SkipsBlanks (p : Parser α) : Prop where
  run_eq
    {prose : Prose}
    {c m : Cursor prose}
    {s? : Option String} :
    blanks.optional.run c = some (s?, m) → p.run c = p.run m

theorem run_seqRight_of_some
    {p : Parser α}
    {q : Parser β}
    {prose : Prose}
    {c m : Cursor prose}
    {a : α}
    (hRun : p.run c = some (a, m)) :
    (p *> q).run c = q.run m := by
  change (Function.const α id <$> p <*> q).run c = _
  rw [run_seq, run_map, hRun]
  exact Option.map_id'

/- All blanks are read at once. -/
theorem exists_run_optional_blanks
    {prose : Prose}
    (c : Cursor prose) :
    ∃ s? m, blanks.optional.run c = some (s?, m) ∧
      m.ahead = c.ahead.dropWhile isSpacing := by
  have hSplit :
      c.ahead = c.ahead.takeWhile isSpacing ++
        c.ahead.dropWhile isSpacing :=
    List.takeWhile_append_dropWhile.symm
  rcases Cursor.exists_of_ahead_eq_append hSplit with ⟨m, hRest⟩
  rw [← hRest] at hSplit
  have hNext : NotNext isSpacing m.ahead := by
    intro a ha
    rw [hRest] at ha
    exact Text.eq_false_of_head?_dropWhile ha
  by_cases hNone : c.ahead.takeWhile isSpacing = []
  · rw [hNone, List.nil_append] at hSplit
    cases Cursor.eq_of_ahead_eq hSplit
    exact ⟨none, c, run_optional_blanks hNext, hRest⟩
  · have hAll :
        ∀ a ∈ c.ahead.takeWhile isSpacing, isSpacing a = true :=
      fun a ha => List.mem_takeWhile_imp ha
    have hChars :
        (oneOf " \t\r\n").repeated1.run c =
          some (c.ahead.takeWhile isSpacing, m) :=
      run_repeated1_character_eq_some.mpr
        ⟨⟨⟨hAll, hSplit⟩, hNext⟩, hNone⟩
    have hBlanks :
        blanks.run c =
          some (String.ofList (c.ahead.takeWhile isSpacing), m) :=
      run_map_eq_some.mpr ⟨_, hChars, rfl⟩
    exact
      ⟨_, m, run_optional_eq_some.mpr
        (Or.inl ⟨_, hBlanks, rfl⟩), hRest⟩

theorem skipsBlanks_optional_then (p : Parser α) :
    SkipsBlanks (blanks.optional *> p) := by
  constructor
  intro prose c m s? hRun
  rcases exists_run_optional_blanks c with ⟨_, n, hBlanks, hRest⟩
  rw [hBlanks] at hRun
  cases hRun
  have hNext : NotNext isSpacing m.ahead := by
    intro a ha
    rw [hRest] at ha
    exact Text.eq_false_of_head?_dropWhile ha
  rw [run_seqRight_of_some hBlanks,
    run_seqRight_of_some (run_optional_blanks hNext)]

section Combinators

variable {p : Parser α}

theorem SkipsBlanks.map
    (hp : SkipsBlanks p)
    (f : α → β) :
    SkipsBlanks (f <$> p) :=
  ⟨fun hRun => by rw [run_map, run_map, hp.run_eq hRun]⟩

theorem SkipsBlanks.seq
    {k : Parser (α → β)}
    (hk : SkipsBlanks k)
    (p : Parser α) :
    SkipsBlanks (k <*> p) :=
  ⟨fun hRun => by rw [run_seq, run_seq, hk.run_eq hRun]⟩

theorem SkipsBlanks.seqLeft
    (hp : SkipsBlanks p)
    (s : Parser β) :
    SkipsBlanks (p <* s) :=
  (hp.map (Function.const β)).seq s

theorem SkipsBlanks.seqRight
    (hp : SkipsBlanks p)
    (s : Parser β) :
    SkipsBlanks (p *> s) :=
  (hp.map (Function.const α id)).seq s

end Combinators

end Parser

namespace Effect

variable (vocabulary : Vocabulary)

theorem skipsBlanks_mustSucceedClause :
    SkipsBlanks (mustSucceedClause vocabulary) := by
  have hPhrase : SkipsBlanks (phrase "must succeed on a") :=
    (skipsBlanks_optional_then _).seqLeft _
  have hSave : SkipsBlanks (mustSucceed vocabulary) :=
    ((hPhrase.seqRight _).map _).seq _
  exact (hSave.map _).seq _

------------------------------------------------------------
-- The Effects of a Save
------------------------------------------------------------

/- An effect that is tied to failing a save by a margin. -/
def HasMargin (e : Effect) : Prop :=
  ∃ save, e.conditions.savingThrow = some save ∧
    save.failureMargin.isSome = true

variable {vocabulary} in
/- One effect of the save, and perhaps one of a margin. -/
theorem exists_cons_of_parse?_mustSucceedClause
    {prose : Prose}
    {left : String}
    {effects : List Effect}
    (hParse :
      (mustSucceedClause vocabulary).parse? prose =
        some (effects, left)) :
    ∃ e rider?, effects = e :: Option.toList rider? ∧
      ∀ rider ∈ rider?, HasMargin rider := by
  rcases Option.map_eq_some_iff.mp hParse with
    ⟨⟨found, r⟩, hRun, hEq⟩
  cases hEq
  rcases run_seq_eq_some.mp hRun with
    ⟨f, m, hFirst, rider?, -, rfl⟩
  rcases run_map_eq_some.mp hFirst with ⟨⟨save, e⟩, -, rfl⟩
  refine ⟨e, rider?.map fun rider =>
    beyondMargin save rider.1 rider.2, rfl, ?_⟩
  intro rider hRider
  rcases Option.map_eq_some_iff.mp hRider with ⟨reply, -, rfl⟩
  exact ⟨_, rfl, rfl⟩

------------------------------------------------------------
-- The Gate
------------------------------------------------------------

/- A clause behind the kind of target that it is about. -/
def gated (kind text : String) : String :=
  "if the target is " ++ kind ++ ", it " ++ text

/- An effect on a target of a kind. -/
def onKind
    (kind : String)
    (e : Effect) : Effect :=
  e.when ("the target is " ++ kind)

theorem takes_phrase
    {s : String}
    (hFirst : s.toList.head?.any (fun a => !isSpacing a) = true) :
    Takes (phrase s) (s.toList ++ [' ']) (NotNext isSpacing) s := by
  have hText :=
    starts_spacing.takes_none.seqRight (takes_literal s)
      fun _ _ => notNext_append hFirst
  exact hText.seqLeft takes_blank.optional fun _ _ => trivial

/- A comma is read where only blanks are left in front of it. -/
theorem forall_isSpacing_of_run_comma
    {prose : Prose}
    {c r : Cursor prose}
    {s : String}
    {before rest : List Char}
    (hAhead : c.ahead = before ++ ',' :: rest)
    (hComma : ',' ∉ before)
    (hRun : (phrase ",").run c = some (s, r)) :
    ∀ a ∈ before, isSpacing a = true := by
  rcases run_seqLeft_eq_some.mp hRun with ⟨n, hText, -⟩
  rcases run_seqRight_eq_some.mp hText with
    ⟨s?, m, hBlanks, hLiteral⟩
  have hSpacing : ReadsOnly isSpacing blanks.optional :=
    (readsOnly_blanks (by decide)).optional
  rcases hSpacing.of_run hBlanks with ⟨read, hRead, hAll⟩
  have hNext : m.ahead = ',' :: n.ahead :=
    (run_literal_eq_some.mp hLiteral).2
  have hNot : ',' ∉ read := by
    intro hMem
    exact absurd (hAll ',' hMem) (by decide)
  rcases exists_of_append_cons_eq_append
      (hAhead.symm.trans hRead) hNot with
    ⟨more, hBefore, hTail⟩
  cases more with
  | nil =>
      rw [hBefore, List.append_nil]
      exact hAll
  | cons a more =>
      rw [hNext, List.cons_append, List.cons.injEq] at hTail
      rw [hBefore, ← hTail.1] at hComma
      simp at hComma

/- The kind of the target reaches up to the first comma. -/
theorem run_seek_comma
    {prose : Prose}
    {c m r : Cursor prose}
    {s : String}
    {kind rest : List Char}
    (hAhead : c.ahead = kind ++ m.ahead)
    (hNext : m.ahead = ',' :: rest)
    (hComma : ',' ∉ kind)
    (hLast : ∀ a ∈ kind.getLast?, isSpacing a = false)
    (hRun : (phrase ",").run m = some (s, r)) :
    (phrase ",").seek.run c = some ((String.ofList kind, s), r) := by
  have hLe := Cursor.position_le_of_ahead_eq hAhead
  have hSeek : (phrase ",").seekFrom c = some (m, s, r) := by
    apply seekFrom_eq_some_of_first hLe hRun
    intro d hFrom hLt
    apply run_eq_none
    intro t e hOther
    rcases Cursor.exists_suffix_of_position_lt hAhead hFrom hLt
      with ⟨inner, hNe, hSuffix, hInner⟩
    have hNot : ',' ∉ inner := fun hMem =>
      hComma (hSuffix.mem hMem)
    rw [hNext] at hInner
    have hAll := forall_isSpacing_of_run_comma hInner hNot hOther
    have hEnd := hLast (inner.getLast hNe)
      (hSuffix.getLast hNe ▸ List.getLast?_eq_some_getLast _)
    rw [hAll _ (List.getLast_mem hNe)] at hEnd
    cases hEnd
  rw [run_seek, hSeek, Option.map_some, Cursor.textUntil_eq hAhead]

/-
  A pronoun is read with the blanks after it, and with those
  that the text behind it begins with.
-/
theorem exists_run_pronoun
    {prose : Prose}
    {c b : Cursor prose}
    (hAhead : c.ahead = "it ".toList ++ b.ahead) :
    b.Breaks ∧
      ∃ s? m, pronoun.run c = some ("it", m) ∧
        blanks.optional.run b = some (s?, m) := by
  have hWord : c.ahead = "it".toList ++ (' ' :: b.ahead) := hAhead
  rcases Cursor.exists_of_ahead_eq_append hWord with ⟨k, hSpace⟩
  rw [← hSpace] at hWord
  have hBreak : b.Breaks := by
    intro a ha
    rw [Cursor.previous?_eq_some hSpace] at ha
    cases ha
    decide
  have hNone : blanks.optional.run c = some (none, c) := by
    apply run_optional_blanks
    rw [hWord]
    exact notNext_cons.mpr (by decide)
  have hEnd : wordEnd.run k = some ((), k) := by
    apply takes_wordEnd.run rfl
    rw [hSpace]
    exact notNext_cons.mpr (by decide)
  have hLiteral : (literal "it").run c = some ("it", k) :=
    run_literal_eq_some.mpr ⟨rfl, hWord⟩
  rcases exists_run_optional_blanks k with ⟨t?, m, hAfter, hLast⟩
  rcases exists_run_optional_blanks b with ⟨s?, n, hBlanks, hRest⟩
  have hSame : m = n := by
    apply Cursor.eq_of_ahead_eq
    rw [hLast, hRest, hSpace]
    exact List.dropWhile_cons_of_pos (by decide)
  refine ⟨hBreak, s?, m, ?_, hSame ▸ hBlanks⟩
  have hPronoun :
      (firstOf [literal "it", literal theTarget,
        literal "the creature"] <* wordEnd).run c =
          some ("it", k) :=
    run_seqLeft_eq_some.mpr
      ⟨k, run_firstOf_of_some _ hLiteral, (), hEnd⟩
  exact run_seqLeft_eq_some.mpr
    ⟨k, run_seqRight_eq_some.mpr ⟨none, c, hNone, hPronoun⟩,
      t?, hAfter⟩

/- A kind that is trimmed begins and ends with no blank. -/
theorem isSpacing_eq_false_of_trim
    {kind : String}
    (hTrim : Text.trim kind = kind) :
    (∀ a ∈ kind.toList.head?, isSpacing a = false) ∧
      ∀ a ∈ kind.toList.getLast?, isSpacing a = false := by
  rw [Text.trim, ← String.toList_inj, String.toList_ofList,
    Text.trimWhere_eq_self_iff] at hTrim
  have hBlanks : " \t\r\n".toList.all Text.isBlank = true := by
    decide
  exact
    ⟨fun a ha => isSpacing_eq_false hBlanks (hTrim.1 a ha),
      fun a ha => isSpacing_eq_false hBlanks (hTrim.2 a ha)⟩

theorem takes_upToComma
    {kind : String}
    (hComma : ',' ∉ kind.toList)
    (hLast : ∀ a ∈ kind.toList.getLast?, isSpacing a = false) :
    Takes (Prod.fst <$> (phrase ",").seek)
      (kind.toList ++ ", ".toList) (NotNext isSpacing) kind := by
  constructor
  intro prose c r hAhead hFollow
  rw [List.append_assoc] at hAhead
  rcases Cursor.exists_of_ahead_eq_append hAhead with ⟨m, hMark⟩
  rw [← hMark] at hAhead
  have hPhrase : (phrase ",").run m = some (",", r) :=
    (takes_phrase rfl).run hMark hFollow
  have hSeek := run_seek_comma hAhead hMark hComma hLast hPhrase
  rw [String.ofList_toList] at hSeek
  exact run_map_eq_some.mpr ⟨(kind, ","), hSeek, rfl⟩

/- The kind is taken from behind the opening words. -/
theorem takes_gate
    {kind : String}
    (hComma : ',' ∉ kind.toList)
    (hTrim : Text.trim kind = kind) :
    Takes
      (phrase "if the target is"
        *> Prod.fst <$> (phrase ",").seek)
      ("if the target is ".toList ++ (kind.toList ++ ", ".toList))
      (NotNext isSpacing) kind := by
  have hEnds := isSpacing_eq_false_of_trim hTrim
  have hOpening :
      "if the target is ".toList =
        "if the target is".toList ++ [' '] := by
    decide
  rw [hOpening]
  apply (takes_phrase rfl).seqRight (takes_upToComma hComma hEnds.2)
  intro rest _
  rw [List.append_assoc]
  cases hLetters : kind.toList with
  | nil => exact notNext_cons.mpr (by decide)
  | cons a more =>
      rw [hLetters] at hEnds
      exact notNext_cons.mpr (hEnds.1 a rfl)

/- The gate is read up to the blanks in front of the clause. -/
theorem exists_run_gate
    {kind : String}
    (text : String)
    (hComma : ',' ∉ kind.toList)
    (hTrim : Text.trim kind = kind) :
    ∃ (b m : Cursor (Prose.ofString (gated kind text)))
      (s? : Option String),
      b.Breaks ∧ b.ahead = text.toList ∧
        blanks.optional.run b = some (s?, m) ∧
        (phrase "if the target is"
            *> Prod.fst <$> (phrase ",").seek <* pronoun).run
          (Cursor.start _) = some (kind, m) := by
  have hText :
      (Cursor.start (Prose.ofString (gated kind text))).ahead =
        ("if the target is ".toList ++
            (kind.toList ++ ", ".toList)) ++
          ("it ".toList ++ text.toList) := by
    have hMark : ", it ".toList = ", ".toList ++ "it ".toList := by
      decide
    change (gated kind text).toList = _
    unfold gated
    simp only [String.toList_append, List.append_assoc, hMark]
  rcases Cursor.exists_of_ahead_eq_append hText with ⟨i, hIt⟩
  rcases Cursor.exists_of_ahead_eq_append hIt with ⟨b, hClause⟩
  rw [← hIt] at hText
  rw [← hClause] at hIt
  have hGate := (takes_gate hComma hTrim).run hText (by
    rw [hIt]
    exact notNext_cons.mpr (by decide))
  rcases exists_run_pronoun hIt with
    ⟨hBreak, s?, m, hPronoun, hBlanks⟩
  exact
    ⟨b, m, s?, hBreak, hClause, hBlanks,
      run_seqLeft_eq_some.mpr ⟨i, hGate, "it", hPronoun⟩⟩

/-
  Behind the gate the clause is read to the same end. Only its
  first effect is kept.
-/
theorem parse?_gated
    {kind text left : String}
    {e : Effect}
    {more : List Effect}
    (hComma : ',' ∉ kind.toList)
    (hTrim : Text.trim kind = kind)
    (hParse :
      (mustSucceedClause vocabulary).parse?
        (Prose.ofString text) = some (e :: more, left)) :
    (ifTargetClause vocabulary).parse?
        (Prose.ofString (gated kind text)) =
      some ([onKind kind e], left) := by
  rcases exists_run_gate text hComma hTrim with
    ⟨b, m, s?, hBreak, hText, hBlanks, hGate⟩
  rcases run_eq_some_of_parse? hParse hBreak hText with
    ⟨r, hClause, hLeft⟩
  rw [(skipsBlanks_mustSucceedClause vocabulary).run_eq hBlanks]
    at hClause
  have hFirst : (firstOfSave vocabulary).run m = some (e, r) :=
    run_filterMap_eq_some.mpr ⟨e :: more, hClause, rfl⟩
  have hRun :
      (ifTargetClause vocabulary).run (Cursor.start _) =
        some ([e.when ("the target is " ++ Text.trim kind)], r) :=
    run_seq_eq_some.mpr
      ⟨_, m, run_map_eq_some.mpr ⟨kind, hGate, rfl⟩, e,
        run_orElse_eq_some.mpr (Or.inl hFirst), rfl⟩
  rw [← hLeft, Parser.parse?, hRun, hTrim]
  rfl

------------------------------------------------------------
-- With and Without a Margin
------------------------------------------------------------

/-
  The clause has one effect, or a second one of a margin. Behind
  the gate the effects are the same just when there is no margin,
  though the text is read to the same end.
-/
theorem parse?_gated_iff
    {kind text left : String}
    {effects : List Effect}
    (hComma : ',' ∉ kind.toList)
    (hTrim : Text.trim kind = kind)
    (hParse :
      (mustSucceedClause vocabulary).parse?
        (Prose.ofString text) = some (effects, left)) :
    ∃ e rider?, effects = e :: Option.toList rider? ∧
      (∀ rider ∈ rider?, HasMargin rider) ∧
      (ifTargetClause vocabulary).parse?
          (Prose.ofString (gated kind text)) =
        some ([onKind kind e], left) ∧
      ((ifTargetClause vocabulary).parse?
            (Prose.ofString (gated kind text)) =
          some (effects.map (onKind kind), left) ↔
        rider? = none) := by
  rcases exists_cons_of_parse?_mustSucceedClause hParse with
    ⟨e, rider?, rfl, hMargin⟩
  have hGated := parse?_gated vocabulary hComma hTrim hParse
  refine ⟨e, rider?, rfl, hMargin, hGated, ?_⟩
  rw [hGated]
  cases rider? with
  | none => exact iff_of_true rfl rfl
  | some rider => simp

/- A save with something worse on failing it by a margin. -/
def stumble : String :=
  "must succeed on a dc 9 wisdom saving throw or be knocked " ++
    "prone. if the saving throw fails by 5 or more, the target " ++
    "dies."

theorem exists_parse?_stumble :
    ∃ e rider left,
      (mustSucceedClause .empty).parse? (Prose.ofString stumble) =
        some ([e, rider], left) := by
  have hRun :
      ((mustSucceedClause .empty).parse?
          (Prose.ofString stumble)).map
            (fun reply => reply.1.length) = some 2 := by
    decide +kernel
  rcases Option.map_eq_some_iff.mp hRun with
    ⟨⟨effects, left⟩, hParse, hLength⟩
  rcases exists_cons_of_parse?_mustSucceedClause hParse with
    ⟨e, rider?, rfl, -⟩
  cases rider? with
  | none => cases hLength
  | some rider => exact ⟨e, rider, left, hParse⟩

/- Behind the gate only the lesser effect is left. -/
theorem parse?_gated_iff_stumble :
    ∃ e rider left,
      (mustSucceedClause .empty).parse? (Prose.ofString stumble) =
          some ([e, rider], left) ∧
        HasMargin rider ∧
        (ifTargetClause .empty).parse?
            (Prose.ofString (gated "a beast" stumble)) =
          some ([onKind "a beast" e], left) := by
  rcases exists_parse?_stumble with ⟨e, rider, left, hParse⟩
  have hComma : ',' ∉ "a beast".toList := by decide
  have hTrim : Text.trim "a beast" = "a beast" := by decide
  rcases parse?_gated_iff .empty hComma hTrim hParse with
    ⟨e', rider?, hEffects, hMargin, hGated, -⟩
  cases rider? with
  | none => cases hEffects
  | some other =>
      cases hEffects
      exact
        ⟨e, rider, left, hParse, hMargin rider rfl, hGated⟩

/- A gated clause need not have the effects of the clause. -/
theorem not_gated_alike :
    ¬ ∀ (vocabulary : Vocabulary) (kind text left : String)
        (effects : List Effect),
      kind ≠ "" → ',' ∉ kind.toList → Text.trim kind = kind →
        (mustSucceedClause vocabulary).parse?
            (Prose.ofString text) = some (effects, left) →
          (ifTargetClause vocabulary).parse?
              (Prose.ofString (gated kind text)) =
            some (effects.map (onKind kind), left) := by
  intro hAlike
  rcases exists_parse?_stumble with ⟨e, rider, left, hParse⟩
  have hComma : ',' ∉ "a beast".toList := by decide
  have hTrim : Text.trim "a beast" = "a beast" := by decide
  have hBoth :=
    hAlike .empty "a beast" stumble left [e, rider] (by decide)
      hComma hTrim hParse
  rw [parse?_gated .empty hComma hTrim hParse] at hBoth
  simp at hBoth

end Effect

end CreatureProse
