import CreatureProse.Proofs.Action.PieceAccount

/-
  What becomes of damage in the clauses of effects. For each
  form of a clause there are the gaps that it leaves, and the
  proof that it leaves no others.

  Main declarations:
    * `Effect.Keeps`
    * `Effect.clauseGap`
    * `Effect.listGap`
    * `Effect.accounts_listParser`
-/

namespace CreatureProse

open CreatureProse.Parser Clause

namespace Effect

------------------------------------------------------------
-- What Effects Keep
------------------------------------------------------------

/-
  The effect has the damage, or the text of it in what it tells
  besides or says about its condition.
-/
def Tells
    (e : Effect)
    (d : Damage)
    (text : String) : Prop :=
  d ∈ e.damage ∨ (∃ s ∈ e.other, Occurs text s) ∨
    ∃ applied ∈ e.condition, ∃ s ∈ applied.comment, Occurs text s

/- The same, or the circumstances have the text of the damage. -/
def Keeps
    (e : Effect)
    (d : Damage)
    (text : String) : Prop :=
  e.Tells d text ∨ ∃ s ∈ e.conditions.other, Occurs text s

variable {e : Effect} {d : Damage} {text : String}

@[simp] theorem tells_ofDamage
    {damage : List Damage} :
    (ofDamage damage).Tells d text ↔ d ∈ damage := by
  simp [Tells, ofDamage]

@[simp] theorem tells_ofText
    {s : String} :
    (ofText s).Tells d text ↔ Occurs text s := by
  simp [Tells, ofText]

@[simp] theorem tells_ofCondition
    {condition : Condition}
    {comment : Option String} :
    (ofCondition condition comment).Tells d text ↔
      ∃ s ∈ comment, Occurs text s := by
  simp [Tells, ofCondition]

@[simp] theorem tells_under
    {conditions : Conditions} :
    (e.under conditions).Tells d text ↔ e.Tells d text :=
  Iff.rfl

@[simp] theorem tells_replacingDamage :
    e.replacingDamage.Tells d text ↔ e.Tells d text :=
  Iff.rfl

@[simp] theorem tells_onFailed
    {save : SavingThrow} :
    (e.onFailed save).Tells d text ↔ e.Tells d text :=
  Iff.rfl

@[simp] theorem tells_beyondMargin
    {save : SavingThrow}
    {margin : UInt32} :
    (beyondMargin save margin e).Tells d text ↔
      e.Tells d text :=
  Iff.rfl

@[simp] theorem tells_when
    {circumstance : String} :
    (e.when circumstance).Tells d text ↔ e.Tells d text :=
  Iff.rfl

@[simp] theorem tells_onSubject
    {who : String} :
    (onSubject e who).Tells d text ↔ e.Tells d text := by
  unfold onSubject
  split
  · exact Iff.rfl
  · exact Iff.rfl

/- One of several effects tells of the damage. -/
def AnyTells
    (effects : List Effect)
    (d : Damage)
    (text : String) : Prop :=
  ∃ e ∈ effects, e.Tells d text

@[simp] theorem anyTells_cons
    {effects : List Effect} :
    AnyTells (e :: effects) d text ↔
      e.Tells d text ∨ AnyTells effects d text := by
  simp [AnyTells]

@[simp] theorem anyTells_nil : ¬ AnyTells [] d text := by
  rintro ⟨e, he, -⟩
  cases he

/- What tells the same of each effect tells the same of all. -/
theorem AnyTells.map
    {effects : List Effect}
    {f : Effect → Effect}
    (hTells : AnyTells effects d text)
    (hSame : ∀ e, (f e).Tells d text ↔ e.Tells d text) :
    AnyTells (effects.map f) d text := by
  rcases hTells with ⟨e, he, hText⟩
  exact ⟨f e, List.mem_map_of_mem he, (hSame e).mpr hText⟩

------------------------------------------------------------
-- Damage Clauses
------------------------------------------------------------

/- The closing bracket of a text in brackets. -/
def bracketGap : Gap :=
  .found (char ')') (.whole (char ')'))

/- The same for a text whose bracket opens first. -/
def remarkGap : Gap :=
  .after (blanks.optional *> char '(') bracketGap

/- The gaps of damage with a remark. -/
def damageGap : Gap :=
  .after Damage.listParser remarkGap

theorem accounts_remark :
    Accounts remark (fun kept _ text => Occurs text kept)
      remarkGap :=
  (accounts_seek (char ')')).seqRight
    (barren_blanks.optional.seqRight (barren_char (by decide)))

theorem accounts_damageClause :
    Accounts damageClause AnyTells damageGap := by
  apply accounts_damageList.map₂_after accounts_remark.optional
  · intro damage comment d text hFirm hMem
    simp [hMem]
  · rintro damage comment d text hFirm ⟨s, hSome, hOccurs⟩
    rw [Option.mem_def.mp hSome]
    simp [(hOccurs.append_left "(").append_right ")"]

/- Damage and nothing else of which a text tells. -/
theorem accounts_alternativeDamages :
    Accounts alternativeDamages
      (fun kept d _ => d = kept.1 ∨ d = kept.2) .nowhere := by
  have hFirst :
      Accounts
        (Damage.parser
          <* (phrase ",").optional <* spacedWord "or")
        (fun kept d _ => d = kept) .nowhere :=
    (accounts_damage.seqLeft
      (barren_phrase (by decide)).optional).seqLeft
        (barren_spacedWord (by decide))
  exact hFirst.map₂_before accounts_damage
    (fun _ _ _ _ _ hSame => Or.inl hSame)
    (fun _ _ _ _ _ hSame => Or.inr hSame)

theorem accounts_versatileClause :
    Accounts versatileClause AnyTells .nowhere := by
  have hMode :
      Barren
        ((literal "in melee"
          <|> literal "to make a melee attack").padded blanks) :=
    barren_of_notDigit
      (((readsOnly_literal (by decide)).orElse
        (readsOnly_literal (by decide))).padded
          (readsOnly_blanks (by decide)))
  apply ((accounts_alternativeDamages.seqLeft
    (barren_phrase (by decide))).seqLeft hMode.optional).map
  intro damage d text hFirm hSame
  simpa using hSame

theorem accounts_meleeOrRangedClause :
    Accounts meleeOrRangedClause AnyTells .nowhere := by
  apply (accounts_damage.seqLeft
    (barren_phrase (by decide))).map₂_before
      (accounts_damage.seqLeft (barren_phrase (by decide)))
  · intro melee ranged d text hFirm hSame
    simp [hSame]
  · intro melee ranged d text hFirm hSame
    simp [hSame]

theorem accounts_changingClause :
    Accounts changingClause AnyTells .nowhere := by
  have hCircumstance :
      Barren
        ((firstOf (knownCircumstances.map literal)).padded
          blanks) :=
    barren_of_notDigit
      ((notDigit_firstOf_literal (by decide)).padded
        (readsOnly_blanks (by decide)))
  apply accounts_alternativeDamages.map₂_before
    (hCircumstance.accounts fun _ _ _ => False)
  · intro damage circumstance d text hFirm hSame
    simpa using hSame
  · intro damage circumstance d text hFirm hNever
    exact hNever.elim

------------------------------------------------------------
-- Replacements
------------------------------------------------------------

/- What is passed over up to a grapple, and its last bracket. -/
def grappleGap : Gap :=
  .either (.whole (phrase "grapple the target").ahead)
    (.after (phrase "grapple the target").ahead remarkGap)

/- The gaps of a replacement. -/
def replacementGap : Gap :=
  .after
    (phrase "instead of dealing damage" *> (phrase ",").optional)
    (.orElse grappleInstead grappleGap .nowhere)

theorem accounts_ofText
    {p : Parser String}
    {gap : Gap}
    (hp : Accounts p (fun kept _ text => Occurs text kept) gap) :
    Accounts (ofText <$> p) Tells gap :=
  hp.map fun _ _ _ _ hOccurs => tells_ofText.mpr hOccurs

theorem accounts_replacementClause :
    Accounts replacementClause AnyTells replacementGap := by
  have hGrapple : Accounts grappleInstead Tells grappleGap := by
    apply ((accounts_whole _ _).seqRight_gap
      accounts_remark.optional).map
    intro comment d text hFirm hOccurs
    simpa using hOccurs
  have hOther : Accounts otherInstead Tells .nowhere := by
    apply accounts_restOfSentence.map
    intro kept d text hFirm hOccurs
    simpa using hOccurs
  have hPhrases :
      Barren
        (phrase "instead of dealing damage"
          *> (phrase ",").optional) :=
    (barren_phrase (by decide)).seqRight
      (barren_phrase (by decide)).optional
  apply ((hGrapple.orElse hOther).seqRight hPhrases).map
  intro e d text hFirm hTells
  simpa using hTells

------------------------------------------------------------
-- What Happens to a Subject
------------------------------------------------------------

/-
  The closing bracket of a comment in brackets, and the rest of
  its sentence.
-/
def commentGap : Gap :=
  .either (.after (char '(') bracketGap)
    (.after (char '(' *> Prod.fst <$> (char ')').seek)
      (.whole sentenceEnd.seek))

theorem accounts_commentParser :
    Accounts commentParser (fun kept _ text => Occurs text kept)
      (.orElse
        (char '(' *> Prod.fst <$> (char ')').seek
          <* sentenceEnd.seek)
        commentGap .nowhere) := by
  have hBracket :
      Accounts (char '(' *> Prod.fst <$> (char ')').seek)
        (fun kept _ text => Occurs text kept)
        (.after (char '(') bracketGap) :=
    (accounts_seek _).seqRight (barren_char (by decide))
  exact (hBracket.seqLeft_gap (accounts_whole _ _)).orElse
    accounts_sentence

/- One of several names as a word of its own. -/
theorem barren_mention
    (names : List String)
    (hNone : ∀ s ∈ names, s.toList.all notDigit = true) :
    Barren
      ((firstOf (names.map literal) <* wordEnd).padded blanks) :=
  barren_of_notDigit
    (((notDigit_firstOf_literal hNone).seqLeft
      readsOnly_wordEnd).padded (readsOnly_blanks (by decide)))

theorem barren_subject : Barren subject :=
  barren_mention
    [theTarget, "the creature", "a swallowed creature"]
    (by decide)

theorem barren_pronoun : Barren pronoun :=
  barren_mention ["it", theTarget, "the creature"]
    (by decide)

theorem accounts_takenDamage
    {verb : String}
    (hNone : verb.toList.all notDigit = true) :
    Accounts (takenDamage verb) Tells .nowhere := by
  apply (accounts_damage.seqRight_nowhere
    (barren_phrase hNone)).map
  intro damage d text hFirm hSame
  simp [hSame]

variable (vocabulary : Vocabulary)

/- The word that is read as a condition. -/
def nameGap : Gap :=
  .whole (conditionName vocabulary)

/- The gaps of what a subject has. -/
def hasGap : Gap :=
  .after (spacedWord "has" *> (phrase "the").optional)
    (.after blanks.optional (nameGap vocabulary))

/- The gaps of what a subject is or becomes. -/
def isGap : Gap :=
  .either
    (.after (spacedWord "is" <|> spacedWord "becomes")
      (.after blanks.optional (nameGap vocabulary)))
    (.after
      ((spacedWord "is" <|> spacedWord "becomes")
        *> (conditionName vocabulary).padded blanks)
      (.orElse
        (char '(' *> Prod.fst <$> (char ')').seek
          <* sentenceEnd.seek)
        commentGap .nowhere))

/- The forms of a predicate, each with its gaps. -/
def predicateForms : List (Parser Effect × Gap) :=
  [(takenDamage "takes", .nowhere),
    (hasCondition vocabulary, hasGap vocabulary),
    (isCondition vocabulary, isGap vocabulary),
    (ofText <$> restOfSentence, .nowhere)]

theorem accounts_name
    {keeps : Condition → Damage → String → Prop} :
    Accounts ((conditionName vocabulary).padded blanks) keeps
      (.after blanks.optional (nameGap vocabulary)) :=
  (accounts_whole _ _).padded barren_blanks

theorem accounts_hasCondition :
    Accounts (hasCondition vocabulary) Tells
      (hasGap vocabulary) := by
  have hName :
      Accounts
        (spacedWord "has" *> (phrase "the").optional
          *> (conditionName vocabulary).padded blanks
          <* spacedWord "condition")
        (fun _ _ _ => False) (hasGap vocabulary) :=
    ((accounts_name vocabulary).seqRight
      ((barren_spacedWord (by decide)).seqRight
        (barren_phrase (by decide)).optional)).seqLeft
          (barren_spacedWord (by decide))
  apply hName.map₂_before accounts_sentence.optional
  · intro condition comment d text hFirm hNever
    exact hNever.elim
  · rintro condition comment d text hFirm ⟨s, hSome, hOccurs⟩
    rw [Option.mem_def.mp hSome, tells_ofCondition]
    rcases hFirm.exists_nonBlank? hOccurs with
      ⟨kept, hEq, hKept⟩
    exact ⟨kept, hEq, hKept⟩

theorem accounts_isCondition :
    Accounts (isCondition vocabulary) Tells
      (isGap vocabulary) := by
  have hVerb :
      Barren (spacedWord "is" <|> spacedWord "becomes") :=
    (barren_spacedWord (by decide)).orElse
      (barren_spacedWord (by decide))
  have hName :
      Accounts
        ((spacedWord "is" <|> spacedWord "becomes")
          *> (conditionName vocabulary).padded blanks)
        (fun _ _ _ => False)
        (.after (spacedWord "is" <|> spacedWord "becomes")
          (.after blanks.optional (nameGap vocabulary))) :=
    (accounts_name vocabulary).seqRight hVerb
  apply hName.map₂ accounts_commentParser
  · intro condition comment d text hFirm hNever
    exact hNever.elim
  · intro condition comment d text hFirm hOccurs
    rw [tells_ofCondition]
    rcases hFirm.exists_nonBlank? hOccurs with
      ⟨kept, hEq, hKept⟩
    exact ⟨kept, hEq, hKept⟩

theorem accounts_predicate :
    Accounts (predicate vocabulary) Tells
      (.first (predicateForms vocabulary)) := by
  apply accounts_firstOf (predicateForms vocabulary)
  simp only [predicateForms, List.forall_mem_cons]
  exact
    ⟨accounts_takenDamage (by decide),
      accounts_hasCondition vocabulary,
      accounts_isCondition vocabulary,
      accounts_ofText accounts_restOfSentence, by simp⟩

------------------------------------------------------------
-- Saving Throw Clauses
------------------------------------------------------------

/- The gaps of a save against damage. -/
def mustMakeGap : Gap :=
  .after (phrase "the target must make a" *> SavingThrow.parser)
    (.after ((phrase ",").optional *> literal "taking ")
      damageGap)

theorem accounts_mustMakeClause :
    Accounts mustMakeClause AnyTells mustMakeGap := by
  have hSave :
      Barren
        (phrase "the target must make a"
          *> SavingThrow.parser) :=
    (barren_phrase (by decide)).seqRight barren_savingThrow
  have hHalf : Barren halfOnSuccess := by
    apply barren_of_notDigit
    apply ReadsOnly.as
    exact
      ((readsOnly_literal (by decide)).optional.seqRight
        (readsOnly_blanks (by decide)).optional).seqRight
          (readsOnly_literal (by decide))
  have hDamage :
      Accounts
        ((phrase ",").optional *> literal "taking "
          *> damageClause <* phrase "on a failed save")
        AnyTells
        (.after ((phrase ",").optional *> literal "taking ")
          damageGap) :=
    (accounts_damageClause.seqRight
      ((barren_phrase (by decide)).optional.seqRight
        (barren_literal (by decide)))).seqLeft
          (barren_phrase (by decide))
  apply Accounts.seq_barren _ hHalf.optional
  apply Accounts.map₂_barren hSave hDamage
  intro save effects d text hFirm hTells half
  exact hTells.map fun e => tells_onFailed

/- The forms of a failed save, each with its gaps. -/
def outcomeForms : List (Parser Effect × Gap) :=
  [(takenDamage "take", .nowhere),
    ((fun condition => ofCondition condition none)
        <$> (phrase "become" *> conditionName vocabulary),
      .after (phrase "become") (nameGap vocabulary)),
    ((literal "be knocked prone").as (ofCondition .prone none),
      .nowhere),
    (ofText <$> restOfSentence, .nowhere)]

theorem accounts_failedOutcome :
    Accounts (failedOutcome vocabulary) Tells
      (.first (outcomeForms vocabulary)) := by
  have hBecome :
      Accounts
        ((fun condition => ofCondition condition none)
          <$> (phrase "become" *> conditionName vocabulary))
        Tells
        (.after (phrase "become") (nameGap vocabulary)) :=
    ((accounts_whole _ fun _ _ _ => False).seqRight
      (barren_phrase (by decide))).map
        fun _ _ _ _ hNever => hNever.elim
  have hProne :
      Barren
        ((literal "be knocked prone").as
          (ofCondition .prone none)) :=
    (barren_literal (by decide)).map
  apply accounts_firstOf (outcomeForms vocabulary)
  simp only [outcomeForms, List.forall_mem_cons]
  exact
    ⟨accounts_takenDamage (by decide), hBecome,
      hProne.accounts _, accounts_ofText accounts_restOfSentence,
      by simp⟩

/-
  What stands between a save that has to succeed and the word
  before its outcome, and the gaps of the outcome.
-/
def mustSucceedGap : Gap :=
  .after (phrase "must succeed on a" *> SavingThrow.parser)
    (.either (.whole (spacedWord "or").seek)
      (.after (spacedWord "or").seek
        (.first (outcomeForms vocabulary))))

theorem accounts_mustSucceed :
    Accounts (mustSucceed vocabulary)
      (fun reply d text => reply.2.Tells d text)
      (mustSucceedGap vocabulary) := by
  have hSave :
      Barren
        (phrase "must succeed on a" *> SavingThrow.parser) :=
    (barren_phrase (by decide)).seqRight barren_savingThrow
  exact .map₂_barren hSave
    ((accounts_whole _ _).seqRight_gap
      (accounts_failedOutcome vocabulary))
    fun _ _ _ _ _ hTells => hTells

/- The gaps of what happens when a save fails by a margin. -/
def riderGap : Gap :=
  .after
    ((phrase ".").optional
      *> phrase "if the saving throw fails by"
      *> number)
    (.after
      (phrase "or more" *> (phrase ",").optional *> subject)
      (.first (predicateForms vocabulary)))

theorem accounts_marginRider :
    Accounts (marginRider vocabulary)
      (fun reply d text => reply.2.Tells d text)
      (riderGap vocabulary) := by
  have hRest :
      Accounts
        (phrase "or more" *> (phrase ",").optional *> subject
          *> predicate vocabulary)
        Tells
        (.after
          (phrase "or more" *> (phrase ",").optional *> subject)
          (.first (predicateForms vocabulary))) :=
    (accounts_predicate vocabulary).seqRight
      (((barren_phrase (by decide)).seqRight
        (barren_phrase (by decide)).optional).seqRight
          barren_subject)
  have hHead :
      Barren
        ((phrase ".").optional
          *> phrase "if the saving throw fails by") :=
    (barren_phrase (by decide)).optional.seqRight
      (barren_phrase (by decide))
  constructor
  intro prose c r x y reply d hRun hClause hFirst hLast
  rcases run_seq_eq_some.mp hRun with
    ⟨f, m, hMap, e, hMore, rfl⟩
  rcases run_map_eq_some.mp hMap with ⟨margin, hMargin, rfl⟩
  -- The margin is no damage, as other words follow it.
  have hPast : m.position ≤ x.position := by
    rcases run_seqRight_eq_some.mp hMargin with
      ⟨s, n, hStart, hNumber⟩
    rcases run_seqRight_eq_some.mp hMore with
      ⟨who, k, hWho, -⟩
    rcases run_seqRight_eq_some.mp hWho with
      ⟨comma, u, hComma, -⟩
    rcases run_seqRight_eq_some.mp hComma with
      ⟨t, v, hPhrase, -⟩
    exact hClause.le_of_margin hNumber hPhrase
      (hHead.le hStart hClause hFirst)
  rcases hRest.of_run hMore hClause hPast hLast with
    hTells | ⟨span, hGap, hOverlap⟩
  · exact Or.inl hTells
  · exact Or.inr ⟨span, ⟨margin, m, hMargin, hGap⟩, hOverlap⟩

/- The gaps of a save that has to succeed, with its rider. -/
def succeedGap : Gap :=
  .either (mustSucceedGap vocabulary)
    (.after (mustSucceed vocabulary) (riderGap vocabulary))

theorem accounts_mustSucceedClause :
    Accounts (mustSucceedClause vocabulary) AnyTells
      (succeedGap vocabulary) := by
  apply (accounts_mustSucceed vocabulary).map₂
    (accounts_marginRider vocabulary).optional
  · rintro ⟨save, e⟩ rider d text hFirm hTells
    exact anyTells_cons.mpr (Or.inl hTells)
  · rintro ⟨save, e⟩ rider d text hFirm ⟨more, hSome, hTells⟩
    rw [Option.mem_def.mp hSome]
    simpa using Or.inr hTells

theorem accounts_savingThrowClause :
    Accounts (savingThrowClause vocabulary) AnyTells
      (.orElse mustMakeClause mustMakeGap
        (.after subject (succeedGap vocabulary))) := by
  apply accounts_mustMakeClause.orElse
  apply Accounts.map₂_barren barren_subject
    (accounts_mustSucceedClause vocabulary)
  intro who effects d text hFirm hTells
  exact hTells.map fun e => tells_onSubject

------------------------------------------------------------
-- Other Clauses
------------------------------------------------------------

/-
  The gaps of the first effect of a save that has to succeed.
  Nothing is said about damage in what happens when the save
  fails by a margin.
-/
def firstOfSaveGap : Gap :=
  .either (mustSucceedGap vocabulary)
    (.after (mustSucceed vocabulary)
      (.whole (marginRider vocabulary)))

theorem accounts_firstOfSave :
    Accounts (firstOfSave vocabulary) Tells
      (firstOfSaveGap vocabulary) := by
  have hClause :
      Accounts (mustSucceedClause vocabulary)
        (fun effects d text =>
          ∃ e ∈ effects.head?, e.Tells d text)
        (firstOfSaveGap vocabulary) := by
    apply (accounts_mustSucceed vocabulary).map₂
      (accounts_whole _ fun _ _ _ => False).optional
    · rintro ⟨save, e⟩ rider d text hFirm hTells
      exact ⟨_, rfl, hTells⟩
    · rintro first rider d text hFirm ⟨more, -, hNever⟩
      exact hNever.elim
  apply hClause.filterMap
  rintro effects e d text hFirm hHead ⟨first, hFirst, hTells⟩
  rw [Option.mem_def.mp hFirst] at hHead
  cases hHead
  exact hTells

/- The gaps of what happens to a target of a certain kind. -/
def ifTargetGap : Gap :=
  .after
    (phrase "if the target is"
      *> Prod.fst <$> (phrase ",").seek <* pronoun)
    (.orElse (firstOfSave vocabulary) (firstOfSaveGap vocabulary)
      (.first (predicateForms vocabulary)))

/- One of several effects keeps the damage. -/
def AnyKeeps
    (effects : List Effect)
    (d : Damage)
    (text : String) : Prop :=
  ∃ e ∈ effects, e.Keeps d text

theorem AnyTells.anyKeeps
    {effects : List Effect}
    (hTells : AnyTells effects d text) :
    AnyKeeps effects d text := by
  rcases hTells with ⟨e, he, hText⟩
  exact ⟨e, he, Or.inl hText⟩

theorem accounts_anyKeeps
    {p : Parser (List Effect)}
    {gap : Gap}
    (hp : Accounts p AnyTells gap) :
    Accounts p AnyKeeps gap :=
  hp.imp fun _ _ _ hTells => hTells.anyKeeps

theorem accounts_ifTargetClause :
    Accounts (ifTargetClause vocabulary) AnyKeeps
      (ifTargetGap vocabulary) := by
  have hKind :
      Accounts
        (phrase "if the target is"
          *> Prod.fst <$> (phrase ",").seek <* pronoun)
        (fun kept _ text => Occurs text kept) .nowhere :=
    (fence_comma.accounts_seek.seqRight_nowhere
      (barren_phrase (by decide))).seqLeft barren_pronoun
  apply hKind.map₂_after
    ((accounts_firstOfSave vocabulary).orElse
      (accounts_predicate vocabulary))
  · intro kind e d text hFirm hOccurs
    exact
      ⟨_, List.mem_singleton_self _,
        Or.inr ⟨_, rfl,
          (hFirm.occurs_trim hOccurs).append_left _⟩⟩
  · intro kind e d text hFirm hTells
    exact
      ⟨_, List.mem_singleton_self _,
        Or.inl (tells_when.mpr hTells)⟩

theorem accounts_subjectClause :
    Accounts (subjectClause vocabulary) AnyTells
      (.after subject (.first (predicateForms vocabulary))) := by
  apply Accounts.map₂_barren barren_subject
    (accounts_predicate vocabulary)
  intro who e d text hFirm hTells
  simpa using hTells

theorem accounts_textClause :
    Accounts textClause AnyTells .nowhere := by
  apply accounts_rest.filterMap
  intro s effects d text hFirm hSome hOccurs
  have hKept := hFirm.occurs_residue hOccurs
  split at hSome
  · rename_i hEmpty
    rw [hEmpty] at hKept
    rcases hFirm.first with ⟨a, rest, hFirst, -⟩
    have hNil := List.infix_nil.mp hKept
    rw [hFirst] at hNil
    cases hNil
  · cases hSome
    simpa using hKept

------------------------------------------------------------
-- Lists of Clauses
------------------------------------------------------------

/- The forms of a clause, each with its gaps. -/
def clauseForms : List (Parser (List Effect) × Gap) :=
  [(versatileClause, .nowhere),
    (meleeOrRangedClause, .nowhere),
    (changingClause, .nowhere),
    (replacementClause, replacementGap),
    (damageClause, damageGap),
    (savingThrowClause vocabulary,
      .orElse mustMakeClause mustMakeGap
        (.after subject (succeedGap vocabulary))),
    (ifTargetClause vocabulary, ifTargetGap vocabulary),
    (subjectClause vocabulary,
      .after subject (.first (predicateForms vocabulary))),
    (textClause, .nowhere)]

theorem accounts_clause :
    Accounts (firstOf (clauses vocabulary)) AnyKeeps
      (.first (clauseForms vocabulary)) := by
  apply accounts_firstOf (clauseForms vocabulary)
  simp only [clauseForms, List.forall_mem_cons]
  exact
    ⟨accounts_anyKeeps accounts_versatileClause,
      accounts_anyKeeps accounts_meleeOrRangedClause,
      accounts_anyKeeps accounts_changingClause,
      accounts_anyKeeps accounts_replacementClause,
      accounts_anyKeeps accounts_damageClause,
      accounts_anyKeeps (accounts_savingThrowClause vocabulary),
      accounts_ifTargetClause vocabulary,
      accounts_anyKeeps (accounts_subjectClause vocabulary),
      accounts_anyKeeps accounts_textClause, by simp⟩

theorem notDigit_clauseSeparator :
    ReadsOnly notDigit clauseSeparator := by
  apply notDigit_separators
  simp only [List.forall_mem_cons]
  exact
    ⟨readsOnly_literal (by decide),
      readsOnly_wholeWord (by decide),
      readsOnly_wholeWord (by decide),
      readsOnly_literal (by decide), by simp⟩

/- The gaps of the clauses of a list. -/
def listGap : Gap :=
  .listed (firstOf (clauses vocabulary)) clauseSeparator
    (.first (clauseForms vocabulary))

theorem accounts_listParser :
    Accounts (listParser vocabulary) AnyKeeps
      (listGap vocabulary) := by
  have hForward := notDigit_clauseSeparator.forward
  apply ((accounts_clause vocabulary).separated
    (barren_of_notDigit notDigit_clauseSeparator)).map
  rintro lists d text hFirm ⟨effects, hMem, e, he, hKeeps⟩
  exact ⟨e, List.mem_flatten.mpr ⟨effects, hMem, he⟩, hKeeps⟩

end Effect

end CreatureProse
