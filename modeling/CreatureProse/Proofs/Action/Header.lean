import CreatureProse.Action.Basic
import CreatureProse.Proofs.Action.Clauses
import CreatureProse.Proofs.Parser.Takes

/-
  The header of an attack: the bonus to hit and the reaches and
  ranges. Written out in the usual way it is read back as it is,
  whatever text comes after it.

  Main declarations:
    * `AttackRange.written`
    * `Attack.written`
    * `Attack.separateFrom_writtenRanges`
    * `Attack.exists_run_effectsParser`
    * `Attack.ofText?_written`
-/

namespace CreatureProse

open CreatureProse.Parser Clause

------------------------------------------------------------
-- Writing a Header
------------------------------------------------------------

/- A reach or a range as it is written. -/
def AttackRange.written : AttackRange → String
| .reach feet => "reach " ++ toString feet.toNat ++ " ft."
| .range normal none =>
  "range " ++ toString normal.toNat ++ " ft."
| .range normal (some long) =>
  "range " ++ toString normal.toNat ++ "/"
    ++ toString long.toNat ++ " ft."

namespace Attack

/- What stands between two ranges. -/
inductive Joint where
| comma
| or
deriving DecidableEq, Repr, Inhabited

def Joint.written : Joint → String
| .comma => ", "
| .or => " or "

/- A range and further ones, each after a joint. -/
def writtenRanges
    (first : AttackRange) :
    List (Joint × AttackRange) → String
| [] => first.written
| (joint, next) :: more =>
  first.written ++ joint.written ++ writtenRanges next more

/- An attack on one target, with any text for what a hit does. -/
def written
    (m : Int)
    (first : AttackRange)
    (more : List (Joint × AttackRange))
    (tail : String) : String :=
  "Melee Weapon Attack: " ++ Text.signed m ++ " to hit, "
    ++ writtenRanges first more ++ ", one target. Hit: " ++ tail

------------------------------------------------------------
-- Single Ranges
------------------------------------------------------------

theorem takes_reachParser (feet : UInt32) :
    Takes reachParser (AttackRange.reach feet).written.toList
      anything (.reach feet) := by
  have hWord :=
    starts_spacing.takes_none.seqRight (takes_literal "reach ")
      fun _ _ => notNext_cons.mpr (by decide)
  have hFeet :=
    hWord.seqRight (takes_number feet) fun _ _ => trivial
  have hSpace :=
    hFeet.seqLeft takes_blank fun _ _ =>
      notNext_cons.mpr (by decide)
  have hAll :=
    (hSpace.seqLeft (takes_literal "ft.") fun _ _ =>
      notNext_cons.mpr (by decide)).map AttackRange.reach
  rw [AttackRange.written, String.toList_append,
    String.toList_append]
  rw [List.append_assoc] at hAll
  exact hAll

/- A numeral does not begin with a blank. -/
theorem notNext_numeral
    (n : Nat)
    (rest : List Char) :
    NotNext isSpacing ((toString n).toList ++ rest) := by
  rcases List.exists_cons_of_ne_nil (Text.toList_toString_ne_nil n)
    with ⟨a, more, hDigits⟩
  rw [hDigits, List.cons_append, notNext_cons]
  have hDigit : a.isDigit = true := by
    apply Text.isDigit_of_mem_toString (n := n)
    rw [hDigits]
    exact List.mem_cons_self ..
  have hBlanks :
      " \t\r\n".toList.all (fun b => !b.isDigit) = true := by
    decide
  exact isSpacing_eq_false hBlanks (by rw [hDigit]; rfl)

/- No long range is read where the unit comes next. -/
theorem takes_longParser_none :
    Takes longParser.optional []
      (fun rest => ∃ more, rest = ' ' :: 'f' :: more) none := by
  constructor
  rintro prose c r hAhead ⟨more, hRest⟩
  cases Cursor.eq_of_ahead_eq hAhead
  have hNone : longParser.run c = none := by
    apply run_eq_none
    intro n r hRun
    rcases run_seqRight_eq_some.mp hRun with ⟨_, k, hBefore, -⟩
    rcases run_seqRight_eq_some.mp hBefore with ⟨_, j, hSlash, -⟩
    rcases run_seqRight_eq_some.mp hSlash with
      ⟨space, m, hSpace, hChar⟩
    rcases Cursor.exists_of_ahead_eq_cons hRest with ⟨k, hUnit⟩
    have hBlank : blanks.optional.run c = some (some " ", k) := by
      apply takes_blank.optional.run
      · rw [hUnit, hRest]
        rfl
      · rw [hUnit]
        exact notNext_cons.mpr (by decide)
    rw [hBlank] at hSpace
    cases hSpace
    rcases run_char_eq_some.mp hChar with ⟨rfl, hAhead⟩
    rw [hUnit, List.cons.injEq] at hAhead
    exact absurd hAhead.1 (by decide)
  exact run_optional_eq_some.mpr (Or.inr ⟨hNone, rfl, rfl⟩)

theorem takes_longParser (long : UInt32) :
    Takes longParser ("/".toList ++ (toString long.toNat).toList)
      (NotNext Char.isDigit) long := by
  have hSlash :=
    starts_spacing.takes_none.seqRight (takes_char '/')
      fun _ _ => notNext_cons.mpr (by decide)
  have hSpace :=
    hSlash.seqRight starts_spacing.takes_none fun _ _ => trivial
  have hAll :=
    hSpace.seqRight (takes_number long) fun rest _ =>
      notNext_numeral long.toNat rest
  exact hAll

/- The word for a range is not the one for a reach. -/
theorem run_reachParser_eq_none
    {prose : Prose}
    {c : Cursor prose}
    {rest : List Char}
    (hAhead : c.ahead = 'r' :: 'a' :: rest) :
    reachParser.run c = none := by
  apply run_eq_none
  intro a r hRun
  rcases run_map_eq_some.mp hRun with ⟨n, hReach, -⟩
  rcases run_seqLeft_eq_some.mp hReach with ⟨k, hFeet, -⟩
  rcases run_seqLeft_eq_some.mp hFeet with ⟨j, hNumber, -⟩
  rcases run_seqRight_eq_some.mp hNumber with ⟨_, i, hWord, -⟩
  rcases run_seqRight_eq_some.mp hWord with
    ⟨space, m, hSpace, hLiteral⟩
  have hBlank : blanks.optional.run c = some (none, c) := by
    apply run_optional_blanks
    rw [hAhead]
    exact notNext_cons.mpr (by decide)
  rw [hBlank] at hSpace
  cases hSpace
  have hText := (run_literal_eq_some.mp hLiteral).2
  rw [hAhead] at hText
  simp at hText

theorem takes_rangeParser
    (normal : UInt32)
    (long : Option UInt32) :
    Takes rangeParser (AttackRange.range normal long).written.toList
      anything (.range normal long) := by
  have hWord :=
    starts_spacing.takes_none.seqRight (takes_literal "range ")
      fun _ _ => notNext_cons.mpr (by decide)
  have hNormal :=
    (hWord.seqRight (takes_number normal) fun _ _ => trivial).map
      AttackRange.range
  cases long with
  | none =>
      have hUnit :=
        (takes_longParser_none.seqLeft (takes_literal " ft")
            fun rest _ => ⟨_, rfl⟩).seqLeft
          (takes_literal ".").optional fun _ _ => trivial
      have hAll := hNormal.seq hUnit
        fun _ _ => notNext_cons.mpr (by decide)
      rw [AttackRange.written, String.toList_append,
        String.toList_append]
      exact hAll
  | some long =>
      have hUnit :=
        ((takes_longParser long).optional.seqLeft
            (takes_literal " ft")
            fun _ _ => notNext_cons.mpr (by decide)).seqLeft
          (takes_literal ".").optional fun _ _ => trivial
      have hAll := hNormal.seq hUnit
        fun _ _ => notNext_cons.mpr (by decide)
      simp only [AttackRange.written, String.toList_append,
        List.append_assoc] at hAll ⊢
      exact hAll

/- A reach or a range is read as it is written. -/
theorem takes_range (range : AttackRange) :
    Takes (reachParser <|> rangeParser) range.written.toList
      anything range := by
  cases range with
  | reach feet => exact (takes_reachParser feet).orElse_left _
  | range normal long =>
      apply (takes_rangeParser normal long).orElse_right
      intro prose c rest hAhead
      cases long with
      | none =>
          apply run_reachParser_eq_none (c := c)
          rw [hAhead, AttackRange.written, String.toList_append,
            String.toList_append]
          rfl
      | some long =>
          apply run_reachParser_eq_none (c := c)
          simp only [hAhead, AttackRange.written,
            String.toList_append]
          rfl

/- Ranges are read where a blank or their word is next. -/
theorem starts_range :
    Starts (fun a => isSpacing a || a == 'r')
      (reachParser <|> rangeParser) := by
  have hBlanks : Starts (fun a => isSpacing a || a == 'r') blanks :=
    starts_blanks (by decide)
  have hReach : Starts (fun a => isSpacing a || a == 'r') reachParser :=
    ((((hBlanks.optionalThen
      (starts_literal (by decide))).seqRight _).seqLeft _).seqLeft
        _).map
  have hRange : Starts (fun a => isSpacing a || a == 'r') rangeParser :=
    ((hBlanks.optionalThen
      (starts_literal (by decide))).seqRight _).map.seq _
  exact hReach.orElse hRange

------------------------------------------------------------
-- Between Ranges
------------------------------------------------------------

/- A comma or the word between ranges, with blanks around it. -/
def markParser : Parser String :=
  (firstOf [literal ",", wholeWord "or"]).padded blanks

/- What comes next is no blank and no mark between ranges. -/
def NoMark (rest : List Char) : Prop :=
  NotNext (fun a => isSpacing a || a == ',') rest ∧
    "or".toList.isPrefixOf rest = false

theorem NoMark.notNext
    {rest : List Char}
    (hNext : NoMark rest) :
    NotNext isSpacing rest :=
  fun a ha => (Bool.or_eq_false_iff.mp (hNext.1 a ha)).1

theorem run_markParser_eq_none
    {prose : Prose}
    {c : Cursor prose}
    (hNext : NoMark c.ahead) :
    markParser.run c = none := by
  have hBlank : blanks.optional.run c = some (none, c) :=
    run_optional_blanks hNext.notNext
  have hComma :
      Starts (fun a => isSpacing a || a == ',') (literal ",") :=
    starts_literal (by decide)
  apply run_eq_none
  intro s r hRun
  rcases run_seqLeft_eq_some.mp hRun with ⟨n, hMark, -⟩
  rcases run_seqRight_eq_some.mp hMark with
    ⟨space, m, hSpace, hFound⟩
  rw [hBlank] at hSpace
  cases hSpace
  rw [run_firstOf_of_none _ (hComma.run_eq_none hNext.1)] at hFound
  rcases exists_of_run_firstOf hFound with ⟨p, hp, hWord⟩
  rw [List.mem_singleton.mp hp] at hWord
  have hPrefix :=
    List.isPrefixOf_iff_prefix.mpr
      ⟨n.ahead, (ahead_of_run_wholeWord hWord).2.symm⟩
  rw [hNext.2] at hPrefix
  cases hPrefix

theorem exists_takes_markParser (joint : Joint) :
    ∃ s, Takes markParser joint.written.toList NoMark s := by
  cases joint with
  | comma =>
      have hMark :=
        starts_spacing.takes_none.seqRight
          ((takes_literal ",").orElse_left (firstOf [wholeWord "or"]))
          fun _ _ => notNext_cons.mpr (by decide)
      have hAll :=
        hMark.seqLeft takes_blank.optional fun _ _ => trivial
      exact ⟨",", hAll.mono fun _ => NoMark.notNext⟩
  | or =>
      have hWord :
          Takes (blanks.optional *> firstOf [literal ",", wholeWord "or"])
            " or".toList (NotNext Text.isAlphanumeric) "or" := by
        apply takes_blank_then rfl
        intro prose c r hPrevious hAhead hFollow
        have hComma : (literal ",").run c = none := by
          apply run_literal_eq_none
          rw [hAhead]
          rfl
        rw [run_firstOf_of_none _ hComma]
        apply run_firstOf_of_some
        apply run_wholeWord _ hAhead hFollow
        intro a ha
        rw [hPrevious] at ha
        cases ha
        decide
      have hAll :=
        hWord.seqLeft takes_blank.optional fun _ _ =>
          notNext_cons.mpr (by decide)
      exact ⟨"or", hAll.mono fun _ => NoMark.notNext⟩

theorem takes_rangeSeparator (joint : Joint) :
    Takes rangeSeparator joint.written.toList NoMark () := by
  rcases exists_takes_markParser joint with ⟨s, hMark⟩
  have hNe : joint.written.toList ≠ [] := by
    cases joint with
    | comma => decide
    | or => decide
  exact (hMark.repeated1 hNe run_markParser_eq_none).as ()

------------------------------------------------------------
-- Lists of Ranges
------------------------------------------------------------

/- What comes after the ranges of a header. -/
def targetText : String :=
  ", one target. "

/- The words for reaches and ranges have one first letter. -/
theorem exists_written_eq_cons (range : AttackRange) :
    ∃ more, range.written.toList = 'r' :: more := by
  cases range with
  | reach feet =>
      rw [AttackRange.written, String.toList_append,
        String.toList_append]
      exact ⟨_, rfl⟩
  | range normal long =>
      cases long with
      | none =>
          rw [AttackRange.written, String.toList_append,
            String.toList_append]
          exact ⟨_, rfl⟩
      | some long =>
          simp only [AttackRange.written, String.toList_append]
          exact ⟨_, rfl⟩

theorem noMark_writtenRanges
    (first : AttackRange)
    (more : List (Joint × AttackRange))
    (rest : List Char) :
    NoMark ((writtenRanges first more).toList ++ rest) := by
  rcases exists_written_eq_cons first with ⟨letters, hFirst⟩
  have hText :
      ∃ tail, (writtenRanges first more).toList = 'r' :: tail := by
    cases more with
    | nil => exact ⟨letters, hFirst⟩
    | cons next more =>
        rw [writtenRanges, String.toList_append,
          String.toList_append, hFirst]
        exact ⟨_, rfl⟩
  rcases hText with ⟨tail, hTail⟩
  rw [hTail]
  exact ⟨notNext_cons.mpr (by decide), rfl⟩

/- One turn of the loop over a list with separators. -/
theorem separateFrom_of_run
    {α β : Type}
    {element : Parser α}
    {separator : Parser β}
    {prose : Prose}
    {before c m n : Cursor prose}
    {a : α}
    {b : β}
    {found : List α}
    (hElement : element.run c = some (a, m))
    (hSeparator : separator.run m = some (b, n))
    (hMoves : c.position < n.position) :
    separateFrom element separator before c found =
      separateFrom element separator m n (a :: found) := by
  rw [separateFrom, hElement]
  dsimp only
  rw [hSeparator]
  dsimp only
  rw [if_pos hMoves]

/- A range is put with those before it, and its joint is read. -/
theorem exists_separateFrom_range
    {range : AttackRange}
    {joint : Joint}
    {prose : Prose}
    {before c n : Cursor prose}
    {found : List AttackRange}
    (hAhead :
      c.ahead =
        range.written.toList ++ (joint.written.toList ++ n.ahead))
    (hNext : NoMark n.ahead) :
    ∃ m : Cursor prose,
      m.ahead = joint.written.toList ++ n.ahead ∧
        separateFrom (reachParser <|> rangeParser) rangeSeparator
            before c found =
          separateFrom (reachParser <|> rangeParser) rangeSeparator
            m n (range :: found) := by
  rcases Cursor.exists_of_ahead_eq_append hAhead with ⟨m, hJoint⟩
  rw [← hJoint] at hAhead
  have hRange := (takes_range range).run hAhead trivial
  have hSeparator := (takes_rangeSeparator joint).run hJoint hNext
  have hMoves : c.position < n.position :=
    Nat.lt_of_le_of_lt (Cursor.position_le_of_ahead_eq hAhead)
      (consumes_separators.lt hSeparator)
  exact
    ⟨m, hJoint, separateFrom_of_run hRange hSeparator hMoves⟩

/-
  The ranges are read to the last one. The comma after it is
  given back, since no range follows.
-/
theorem separateFrom_writtenRanges
    {prose : Prose}
    {first : AttackRange}
    {more : List (Joint × AttackRange)}
    {before c r : Cursor prose}
    {found : List AttackRange}
    {rest : List Char}
    (hAhead : c.ahead = (writtenRanges first more).toList ++ r.ahead)
    (hEnd : r.ahead = targetText.toList ++ rest) :
    separateFrom (reachParser <|> rangeParser) rangeSeparator
        before c found =
      some (found.reverse ++ first :: more.map Prod.snd, r) := by
  induction more generalizing first before c found with
  | nil =>
      have hSplit :
          r.ahead = Joint.comma.written.toList ++
            ("one target. ".toList ++ rest) := hEnd
      rcases Cursor.exists_of_ahead_eq_append hSplit with
        ⟨n, hNext⟩
      rw [← hNext] at hSplit
      rw [writtenRanges, hSplit] at hAhead
      have hMark : NoMark n.ahead := by
        rw [hNext]
        exact ⟨notNext_cons.mpr (by decide), rfl⟩
      rcases exists_separateFrom_range hAhead hMark with
        ⟨m, hComma, hTurn⟩
      cases Cursor.eq_of_ahead_eq (hComma.trans hSplit.symm)
      have hNone : (reachParser <|> rangeParser).run n = none := by
        apply starts_range.run_eq_none
        rw [hNext]
        exact notNext_cons.mpr (by decide)
      rw [hTurn, separateFrom, hNone, List.reverse_cons]
      rfl
  | cons next more ih =>
      obtain ⟨joint, next⟩ := next
      rw [writtenRanges, String.toList_append,
        String.toList_append, List.append_assoc, List.append_assoc]
        at hAhead
      rcases Cursor.exists_of_ahead_eq_append hAhead with
        ⟨m, hMiddle⟩
      rcases Cursor.exists_of_ahead_eq_append hMiddle with
        ⟨n, hNext⟩
      rw [← hNext] at hAhead
      have hMark : NoMark n.ahead := by
        rw [hNext]
        exact noMark_writtenRanges next more r.ahead
      rcases exists_separateFrom_range hAhead hMark with
        ⟨k, -, hTurn⟩
      rw [hTurn, ih hNext, List.reverse_cons, List.append_assoc]
      rfl

theorem takes_rangesParser
    (first : AttackRange)
    (more : List (Joint × AttackRange)) :
    Takes rangesParser (writtenRanges first more).toList
      (fun rest => targetText.toList <+: rest)
      (first :: more.map Prod.snd) := by
  constructor
  rintro prose c r hAhead ⟨rest, hEnd⟩
  refine run_filter_eq_some.mpr ⟨?_, rfl⟩
  rw [run_separated,
    separateFrom_writtenRanges hAhead hEnd.symm]
  rfl

------------------------------------------------------------
-- Around the Ranges
------------------------------------------------------------

/- Only the label in front of the bonus begins with its letters. -/
theorem takes_labelParser :
    Takes labelParser "melee weapon attack: ".toList
      (NotNext isSpacing) () := by
  have hStarts :
      Starts (fun a => a == 'w' || a == 's' || a == 'a')
        (firstOf [literal "weapon attack:",
          literal "spell attack:", literal "attack roll:"]) := by
    apply Starts.firstOf
    simp only [List.forall_mem_cons]
    exact
      ⟨starts_literal (by decide), starts_literal (by decide),
        starts_literal (by decide), by simp⟩
  have hLabel :=
    (takes_literal "weapon attack:").orElse_left
      (firstOf [literal "spell attack:", literal "attack roll:"])
  have hSeek :=
    hLabel.seek "melee ".toList hStarts (by decide)
  exact
    (hSeek.seqRight takes_blank.optional fun _ _ => trivial).as ()

theorem takes_hitParser
    {m : Int}
    (hLe : m.natAbs ≤ 2 ^ 31 - 1) :
    Takes hitParser ((Text.signed m).toList ++ " to hit".toList)
      (NotNext fun a => isSpacing a || a == '(')
      (⟨Int32.ofInt m⟩, []) := by
  have hOthers :
      Starts (fun a => isSpacing a || a == '(')
        conditionalHitsParser := by
    have hBlanks :
        Starts (fun a => isSpacing a || a == '(') blanks :=
      starts_blanks (by decide)
    have hRemark :=
      ((hBlanks.optionalThen
        (starts_char (a := '(') (by decide))).seqRight
          (Prod.fst <$> (char ')').seek))
    exact hRemark.map
  have hPhrase :=
    (takes_blank.seqRight (takes_literal "to hit")
      fun _ _ => notNext_cons.mpr (by decide)).optional
  have hBonus :=
    ((takes_signedNumber hLe).seqLeft hPhrase
      fun _ _ => notNext_cons.mpr (by decide)).map
        fun n (more : Option (List ConditionalHit)) =>
          ((⟨n⟩ : Modifier), more.getD [])
  have hAll := hBonus.seq hOthers.takes_none fun _ _ => trivial
  rw [List.append_nil] at hAll
  exact hAll

/- The target ends with the first full stop after it. -/
theorem takes_targetParser :
    Takes targetParser targetText.toList (NotNext isSpacing) () := by
  have hStop :=
    (takes_literal ".").seqRight
      ((takes_blank.as ()).orElse_left atEnd) fun _ _ => trivial
  have hStarts :
      Starts (fun a => a == '.')
        (literal "." *> (blanks.as () <|> atEnd)) :=
    (starts_literal (by decide)).seqRight _
  have hSeek :=
    hStop.seek "one target".toList hStarts (by decide)
  have hComma :=
    (takes_literal ",").seqRight takes_blank.optional
      fun _ _ => trivial
  exact
    (hComma.seqRight hSeek
      fun _ _ => notNext_cons.mpr (by decide)).as ()

/- What happens on a hit is read from any text. -/
theorem exists_run_effectsParser
    (vocabulary : Vocabulary)
    {prose : Prose}
    (c : Cursor prose) :
    ∃ effects r,
      (effectsParser vocabulary).run c = some (effects, r) := by
  rcases exists_run_optional blanks c with ⟨s, k, hFirst⟩
  rcases exists_run_optional (literal "hit:") k with ⟨t, m, hLabel⟩
  rcases exists_run_optional blanks m with ⟨u, n, hSecond⟩
  rcases Effect.exists_run_listParser vocabulary n with
    ⟨effects, r, hEffects⟩
  exact
    ⟨effects, r, run_seqRight_eq_some.mpr
      ⟨u, n, run_seqRight_eq_some.mpr
        ⟨t, m, run_seqRight_eq_some.mpr ⟨s, k, hFirst, hLabel⟩,
          hSecond⟩,
        hEffects⟩⟩

------------------------------------------------------------
-- The Whole Attack
------------------------------------------------------------

/- The folded text of an attack up to the label of the hit. -/
def foldedHeader
    (m : Int)
    (first : AttackRange)
    (more : List (Joint × AttackRange)) : List Char :=
  "melee weapon attack: ".toList ++
    ((Text.signed m).toList ++ " to hit".toList) ++ ", ".toList ++
    ((writtenRanges first more).toList ++ targetText.toList)

/- The header gives the bonus to hit and the ranges. -/
theorem exists_run_attack
    (vocabulary : Vocabulary)
    {m : Int}
    (hLe : m.natAbs ≤ 2 ^ 31 - 1)
    {first : AttackRange}
    {more : List (Joint × AttackRange)}
    {prose : Prose}
    {c r : Cursor prose}
    (hAhead : c.ahead = foldedHeader m first more ++ r.ahead)
    (hNext : NotNext isSpacing r.ahead) :
    ∃ effects last,
      (Attack.parser vocabulary).run c =
        some
          ({ modifier := ⟨Int32.ofInt m⟩
             conditionalHits := []
             ranges := first :: more.map Prod.snd
             effects }, last) := by
  have hSign (rest : List Char) :
      NotNext isSpacing
        (((Text.signed m).toList ++ " to hit".toList) ++ rest) := by
    rw [Text.toList_signed, List.cons_append, List.cons_append,
      notNext_cons]
    split
    · decide
    · decide
  have hHit :=
    takes_labelParser.seqRight (takes_hitParser hLe)
      fun rest _ => hSign rest
  have hComma :
      Takes (literal "," *> blanks.optional).optional
        ", ".toList (NotNext isSpacing) (some (some " ")) :=
    ((takes_literal ",").seqRight takes_blank.optional
      fun _ _ => trivial).optional
  have hBonus :=
    hHit.seqLeft hComma fun _ _ => notNext_cons.mpr (by decide)
  have hRanges :=
    (takes_rangesParser first more).seqLeft
      takes_targetParser.optional fun rest _ => ⟨rest, rfl⟩
  have hHeader :=
    (hBonus.map fun hit ranges effects =>
        ({ modifier := hit.1
           conditionalHits := hit.2
           ranges
           effects } : Attack)).seq hRanges fun rest _ => by
      rw [List.append_assoc]
      exact (noMark_writtenRanges first more _).notNext
  have hRun := hHeader.run hAhead hNext
  rcases exists_run_effectsParser vocabulary r with
    ⟨effects, last, hEffects⟩
  exact
    ⟨effects, last, run_seq_eq_some.mpr
      ⟨_, r, hRun, effects, hEffects, rfl⟩⟩

------------------------------------------------------------
-- Folding
------------------------------------------------------------

theorem map_foldChar_range (range : AttackRange) :
    range.written.toList.map Text.foldChar =
      range.written.toList := by
  cases range with
  | reach feet =>
      simp only [AttackRange.written, String.toList_append,
        List.map_append, Text.map_foldChar_toString]
      rfl
  | range normal long =>
      cases long with
      | none =>
          simp only [AttackRange.written, String.toList_append,
            List.map_append, Text.map_foldChar_toString]
          rfl
      | some long =>
          simp only [AttackRange.written, String.toList_append,
            List.map_append, Text.map_foldChar_toString]
          rfl

theorem map_foldChar_writtenRanges
    (first : AttackRange)
    (more : List (Joint × AttackRange)) :
    (writtenRanges first more).toList.map Text.foldChar =
      (writtenRanges first more).toList := by
  induction more generalizing first with
  | nil => exact map_foldChar_range first
  | cons next more ih =>
      obtain ⟨joint, next⟩ := next
      have hJoint :
          joint.written.toList.map Text.foldChar =
            joint.written.toList := by
        cases joint with
        | comma => decide
        | or => decide
      simp only [writtenRanges, String.toList_append,
        List.map_append, map_foldChar_range, hJoint, ih]

theorem toList_written
    (m : Int)
    (first : AttackRange)
    (more : List (Joint × AttackRange))
    (tail : String) :
    (written m first more tail).toList =
      "Melee Weapon Attack: ".toList ++ ((Text.signed m).toList ++
        (" to hit, ".toList ++ ((writtenRanges first more).toList ++
          (", one target. Hit: ".toList ++ tail.toList)))) := by
  unfold written
  simp only [String.toList_append, List.append_assoc]

theorem folded_written
    (m : Int)
    (first : AttackRange)
    (more : List (Joint × AttackRange))
    (tail : String) :
    (Prose.folded (written m first more tail)).toList =
      foldedHeader m first more ++
        ("hit: ".toList ++ (Prose.folded tail).toList) := by
  have hLabel :
      "Melee Weapon Attack: ".toList.map Text.foldChar =
        "melee weapon attack: ".toList := by
    decide
  have hBonus :
      " to hit, ".toList.map Text.foldChar =
        " to hit".toList ++ ", ".toList := by
    decide
  have hTarget :
      ", one target. Hit: ".toList.map Text.foldChar =
        targetText.toList ++ "hit: ".toList := by
    decide
  unfold Prose.folded foldedHeader
  simp only [toList_written, List.map_append, hLabel, hBonus,
    hTarget, Text.map_foldChar_signed, map_foldChar_writtenRanges,
    List.append_assoc]

/-
  An attack that is written out is read with its bonus to hit
  and its ranges, whatever comes after the label of the hit.
-/
theorem ofText?_written
    (vocabulary : Vocabulary)
    {m : Int}
    (hLe : m.natAbs ≤ 2 ^ 31 - 1)
    (first : AttackRange)
    (more : List (Joint × AttackRange))
    (tail : String) :
    ∃ a rest,
      Action.ofText? vocabulary (written m first more tail) =
          some (.attack a, rest) ∧
        a.modifier.value.toInt = m ∧
        a.conditionalHits = [] ∧
        a.ranges = first :: more.map Prod.snd := by
  have hText :
      (Cursor.start
          (Prose.folded (written m first more tail))).ahead =
        foldedHeader m first more ++
          ("hit: ".toList ++ (Prose.folded tail).toList) :=
    folded_written m first more tail
  rcases Cursor.exists_of_ahead_eq_append hText with ⟨r, hRest⟩
  rw [← hRest] at hText
  have hNext : NotNext isSpacing r.ahead := by
    rw [hRest]
    exact notNext_cons.mpr (by decide)
  rcases exists_run_attack vocabulary hLe hText hNext with
    ⟨effects, last, hRun⟩
  have hValue : (Int32.ofInt m).toInt = m :=
    Int32.toInt_ofInt_of_le (by omega) (by omega)
  have hParse :
      Action.ofText? vocabulary (written m first more tail) =
        some
          (.attack
            { modifier := ⟨Int32.ofInt m⟩
              conditionalHits := []
              ranges := first :: more.map Prod.snd
              effects }, last.rest) := by
    rw [Action.ofText?, Parser.parse?, hRun]
    rfl
  exact ⟨_, last.rest, hParse, hValue, rfl, rfl⟩

/- The least bonus, three ranges, and another label in the tail. -/
theorem ofText?_written_stingingLash :
    ∃ a rest,
      Action.ofText? .empty
          ("Melee Weapon Attack: -2147483647 to hit, " ++
            "reach 5 ft. or range 20/60 ft., range 4294967295 ft." ++
            ", one target. Hit: melee attack roll: +3, reach 1 ft.") =
          some (.attack a, rest) ∧
        a.modifier.value.toInt = -2147483647 ∧
        a.conditionalHits = [] ∧
        a.ranges =
          [.reach 5, .range 20 (some 60), .range 4294967295 none] := by
  have hLe : (-2147483647 : Int).natAbs ≤ 2 ^ 31 - 1 := by decide
  have hText :
      written (-2147483647) (.reach 5)
          [(.or, .range 20 (some 60)), (.comma, .range 4294967295 none)]
          "melee attack roll: +3, reach 1 ft." =
        "Melee Weapon Attack: -2147483647 to hit, " ++
          "reach 5 ft. or range 20/60 ft., range 4294967295 ft." ++
          ", one target. Hit: melee attack roll: +3, reach 1 ft." := by
    decide +kernel
  rw [← hText]
  exact ofText?_written .empty hLe _ _ _

end Attack

end CreatureProse
