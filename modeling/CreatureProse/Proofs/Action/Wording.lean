import CreatureProse.Proofs.Action.Shape
import CreatureProse.Proofs.Text.Fold
import CreatureProse.Proofs.Text.Split

/-
  The texts in the effects of an action. Every circumstance tells
  something. Other texts may be what trimming leaves of blanks
  and stops: blanks are taken away before stops or not at all,
  and a remark on a grapple is not trimmed.

  Main declarations:
    * `Meaningful`
    * `Leftover`
    * `Effect.Wording`
    * `Effect.listParser_wording`
    * `Action.wording_of_ofText?`
-/

namespace CreatureProse

open CreatureProse.Parser Clause

------------------------------------------------------------
-- Meaningful Texts
------------------------------------------------------------

/- Whether a character is blank or a stop. -/
def isIdle (a : Char) : Bool :=
  Text.isBlank a || isStop a

/- A text with a character that is neither blank nor a stop. -/
def Meaningful (s : String) : Prop :=
  ∃ a ∈ s.toList, isIdle a = false

instance
    (s : String) :
    Decidable (Meaningful s) :=
  decidable_of_iff (s.toList.any (fun a => !isIdle a) = true) (by
    simp [Meaningful])

/-
  Blanks and stops without anything else, at least one of them,
  and of the same kind at both ends.
-/
structure Leftover
    (kind : Char → Bool)
    (s : String) : Prop where
  ne_nil : s.toList ≠ []
  idle : ∀ a ∈ s.toList, isIdle a = true
  first : ∀ a ∈ s.toList.head?, kind a = true
  last : ∀ a ∈ s.toList.getLast?, kind a = true

theorem idle_of_not_meaningful
    {s : String}
    (hNot : ¬ Meaningful s) :
    ∀ a ∈ s.toList, isIdle a = true := by
  intro a ha
  cases hIdle : isIdle a with
  | true => rfl
  | false => exact absurd ⟨a, ha, hIdle⟩ hNot

theorem Meaningful.append
    {s : String}
    (hMeaning : Meaningful s)
    (t : String) :
    Meaningful (s ++ t) := by
  rcases hMeaning with ⟨a, ha, hIdle⟩
  refine ⟨a, ?_, hIdle⟩
  rw [String.toList_append]
  exact List.mem_append_left _ ha

theorem Meaningful.append_left
    {t : String}
    (hMeaning : Meaningful t)
    (s : String) :
    Meaningful (s ++ t) := by
  rcases hMeaning with ⟨a, ha, hIdle⟩
  refine ⟨a, ?_, hIdle⟩
  rw [String.toList_append]
  exact List.mem_append_right _ ha

/- What is trimmed of a kind has the other kind at its ends. -/
theorem meaningful_or_leftover
    {drop kind : Char → Bool}
    {cs : List Char}
    (hKinds : ∀ a, isIdle a = true → drop a = false → kind a = true)
    (hTrimmed : Text.trimWhere drop cs ≠ []) :
    Meaningful (String.ofList (Text.trimWhere drop cs)) ∨
      Leftover kind (String.ofList (Text.trimWhere drop cs)) := by
  by_cases hMeaning :
      Meaningful (String.ofList (Text.trimWhere drop cs))
  · exact Or.inl hMeaning
  · have hIdle := idle_of_not_meaningful hMeaning
    have hSame :
        Text.trimWhere drop (Text.trimWhere drop cs) =
          Text.trimWhere drop cs :=
      Text.trimWhere_trimWhere
    rcases Text.trimWhere_eq_self_iff.mp hSame with
      ⟨hHead, hLast⟩
    rw [String.toList_ofList] at hIdle
    refine Or.inr ⟨?_, ?_, ?_, ?_⟩
    · rwa [String.toList_ofList]
    · rwa [String.toList_ofList]
    · rw [String.toList_ofList]
      intro a ha
      exact hKinds a (hIdle a (List.mem_of_mem_head? ha))
        (hHead a ha)
    · rw [String.toList_ofList]
      intro a ha
      exact hKinds a (hIdle a (List.mem_of_getLast? ha))
        (hLast a ha)

/- Text without blanks around it may be stops. -/
theorem nonBlank?_meaningful
    {s t : String}
    (hSome : nonBlank? s = some t) :
    Meaningful t ∨ Leftover isStop t := by
  unfold nonBlank? at hSome
  split at hSome
  · cases hSome
  · rename_i hNe
    cases hSome
    apply meaningful_or_leftover
    · intro a hIdle hBlank
      rw [isIdle, hBlank, Bool.false_or] at hIdle
      exact hIdle
    · intro hNil
      apply hNe
      rw [Text.trim, hNil]

/- A residue may be blanks that stood between stops. -/
theorem residue_meaningful
    {s : String}
    (hNe : residue s ≠ "") :
    Meaningful (residue s) ∨ Leftover Text.isBlank (residue s) := by
  apply meaningful_or_leftover
  · intro a hIdle hStop
    rw [isIdle, hStop, Bool.or_false] at hIdle
    exact hIdle
  · intro hNil
    apply hNe
    rw [residue, hNil]

------------------------------------------------------------
-- Riders
------------------------------------------------------------

/- The code points of the blanks past the first 128 characters. -/
def farBlanks : List Nat :=
  [0x85, 0xa0, 0x1680, 0x2000, 0x2001, 0x2002, 0x2003, 0x2004,
    0x2005, 0x2006, 0x2007, 0x2008, 0x2009, 0x200a, 0x2028,
    0x2029, 0x202f, 0x205f, 0x3000]

theorem mem_farBlanks
    {a : Char}
    (hFar : ¬ a.toNat < 128)
    (hBlank : Text.isBlank a = true) :
    a.toNat ∈ farBlanks := by
  rw [Text.isBlank, if_neg hFar] at hBlank
  simp only [Text.CharTable.contains, Text.blank, List.any_toArray,
    List.any_cons, List.any_nil, Bool.or_eq_true, Bool.and_eq_true,
    decide_eq_true_eq, Bool.false_eq_true, or_false] at hBlank
  simp only [farBlanks, List.mem_cons, List.not_mem_nil, or_false]
  omega

theorem isAscii_of_isStop
    {a : Char}
    (hStop : isStop a = true) :
    Text.isAscii a = true := by
  simp only [isStop, Bool.or_eq_true, beq_iff_eq] at hStop
  rcases hStop with ((rfl | rfl) | rfl) | rfl
  · decide
  · decide
  · decide
  · decide

/- Blanks and stops have no case. -/
theorem lowercaseOf_of_isIdle
    {a : Char}
    (hIdle : isIdle a = true) :
    a ≠ 'Σ' ∧ Text.lowercaseOf a = [a] := by
  by_cases hLt : a.toNat < 128
  · have hAll :
        (List.range 128).all (fun n =>
          !isIdle (Char.ofNat n)
            || Text.foldChar (Char.ofNat n) == Char.ofNat n) =
          true := by
      decide +kernel
    have hAscii : Text.isAscii a = true := decide_eq_true hLt
    have hFold := Text.forall_isAscii
      (fun a => !isIdle a || Text.foldChar a == a)
      hAll hAscii
    rw [hIdle] at hFold
    have hSame : Text.foldChar a = a := beq_iff_eq.mp hFold
    have hLower := Text.lowercaseOf_of_isAscii hAscii
    rwa [hSame] at hLower
  · have hAll :
        ∀ n ∈ farBlanks,
          Char.ofNat n ≠ 'Σ' ∧
            Text.lowercaseOf (Char.ofNat n) = [Char.ofNat n] := by
      decide +kernel
    rcases Bool.or_eq_true_iff.mp hIdle with hBlank | hStop
    · have hFound := hAll a.toNat (mem_farBlanks hLt hBlank)
      rwa [Char.ofNat_toNat] at hFound
    · exact absurd (of_decide_eq_true (isAscii_of_isStop hStop)) hLt

theorem foldChar_of_isIdle
    {a : Char}
    (hIdle : isIdle a = true) :
    Text.foldChar a = a := by
  rw [Text.foldChar, (lowercaseOf_of_isIdle hIdle).2]

/- A rider begins with its words, which are none of these. -/
theorem meaningful_of_startsWith
    {start s : String}
    (hStart : Meaningful start)
    (hBegins : Text.startsWith start (Text.lowercase s) = true) :
    Meaningful s := by
  by_contra hNot
  have hIdle := idle_of_not_meaningful hNot
  have hLower : (Text.lowercase s).toList = s.toList := by
    rw [Text.lowercase, String.toList_ofList,
      Text.lowercaseFrom_eq_map]
    · rw [List.map_congr_left fun a ha =>
        foldChar_of_isIdle (hIdle a ha)]
      exact List.map_id' _
    · intro a ha
      rw [foldChar_of_isIdle (hIdle a ha)]
      exact lowercaseOf_of_isIdle (hIdle a ha)
  rcases hStart with ⟨a, ha, hTelling⟩
  rw [Text.startsWith, hLower, List.isPrefixOf_iff_prefix]
    at hBegins
  rw [hIdle a (hBegins.subset ha)] at hTelling
  cases hTelling

theorem meaningful_of_rider?
    {e : Effect}
    {rider : String}
    (hRider : SaveAction.rider? e = some rider) :
    Meaningful rider := by
  unfold SaveAction.rider? at hRider
  split at hRider
  · exact meaningful_of_startsWith (by decide)
      (Option.filter_eq_some_iff.mp hRider).2
  · cases hRider

theorem meaningful_withRider
    {rider : String}
    (hRider : Meaningful rider)
    (comment : Option String) :
    Meaningful (SaveAction.withRider rider comment) := by
  unfold SaveAction.withRider
  split
  · exact hRider
  · exact hRider
  · exact hRider.append_left _

------------------------------------------------------------
-- Effects
------------------------------------------------------------

namespace Effect

/- A text that is trimmed before it is found to be empty. -/
def KeptText (s : String) : Prop :=
  Meaningful s ∨ Leftover isStop s ∨ Leftover Text.isBlank s

/-
  The texts of an effect. One that tells nothing is a leftover,
  or the comment of a grapple in place of damage.
-/
structure Wording (e : Effect) : Prop where
  circumstance : ∀ s ∈ e.conditions.other, Meaningful s
  other : ∀ s ∈ e.other, KeptText s
  comment :
    ∀ a ∈ e.condition, ∀ s ∈ a.comment,
      Meaningful s ∨ Leftover isStop s ∨
        a.condition = .grappled ∧ e.replacesDamage = true

/- An effect all of whose texts tell something. -/
structure Telling (e : Effect) : Prop where
  circumstance : ∀ s ∈ e.conditions.other, Meaningful s
  other : ∀ s ∈ e.other, Meaningful s
  comment : ∀ a ∈ e.condition, ∀ s ∈ a.comment, Meaningful s

theorem wording_ofDamage
    (damage : List Damage) :
    (ofDamage damage).Wording := by
  constructor
  · intro s hs
    cases hs
  · intro s hs
    cases hs
  · intro a ha
    cases ha

theorem wording_ofText
    {s : String}
    (hText : KeptText s) :
    (ofText s).Wording := by
  constructor
  · intro t ht
    cases ht
  · intro t ht
    cases ht
    exact hText
  · intro a ha
    cases ha

theorem wording_ofCondition
    {condition : Condition}
    {comment : Option String}
    (hComment : ∀ s ∈ comment, Meaningful s ∨ Leftover isStop s) :
    (ofCondition condition comment).Wording := by
  constructor
  · intro s hs
    cases hs
  · intro s hs
    cases hs
  · intro a ha s hs
    cases ha
    exact (hComment s hs).imp_right Or.inl

variable {e : Effect}

theorem Wording.under
    (hWording : e.Wording)
    {conditions : Conditions}
    (hOther : ∀ s ∈ conditions.other, Meaningful s) :
    (e.under conditions).Wording :=
  ⟨hOther, hWording.other, hWording.comment⟩

theorem Wording.when
    (hWording : e.Wording)
    {circumstance : String}
    (hMeaning : Meaningful circumstance) :
    (e.when circumstance).Wording := by
  refine ⟨?_, hWording.other, hWording.comment⟩
  intro s hs
  cases hs
  exact hMeaning

theorem Wording.onFailed
    (hWording : e.Wording)
    (save : SavingThrow) :
    (e.onFailed save).Wording :=
  ⟨hWording.circumstance, hWording.other, hWording.comment⟩

theorem Wording.replacingDamage
    (hWording : e.Wording) :
    e.replacingDamage.Wording := by
  refine ⟨hWording.circumstance, hWording.other, ?_⟩
  intro a ha s hs
  rcases hWording.comment a ha s hs with
    hMeaning | hLeftover | ⟨hGrapple, -⟩
  · exact Or.inl hMeaning
  · exact Or.inr (Or.inl hLeftover)
  · exact Or.inr (Or.inr ⟨hGrapple, rfl⟩)

theorem Wording.onSubject
    (hWording : e.Wording)
    {who : String}
    (hWho : who = theTarget ∨ Meaningful who) :
    (onSubject e who).Wording := by
  unfold Clause.onSubject
  split
  · exact hWording
  · rename_i hOther
    exact hWording.when (hWho.resolve_left hOther)

/- All effects of a list are worded in this way. -/
def AllWorded (effects : List Effect) : Prop :=
  ∀ e ∈ effects, e.Wording

theorem allWorded_nil : AllWorded [] := by
  intro e he
  cases he

theorem allWorded_cons
    {effects : List Effect} :
    AllWorded (e :: effects) ↔ e.Wording ∧ AllWorded effects :=
  List.forall_mem_cons

theorem allWorded_singleton
    (hWording : e.Wording) :
    AllWorded [e] :=
  allWorded_cons.mpr ⟨hWording, allWorded_nil⟩

theorem AllWorded.map
    {effects : List Effect}
    {f : Effect → Effect}
    (hAll : AllWorded effects)
    (hKeeps : ∀ e : Effect, e.Wording → (f e).Wording) :
    AllWorded (effects.map f) := by
  intro e he
  rcases List.mem_map.mp he with ⟨original, hMem, rfl⟩
  exact hKeeps original (hAll original hMem)

------------------------------------------------------------
-- Clauses of the Grammar
------------------------------------------------------------

/- A remark after damage keeps its brackets, and so it tells. -/
theorem damageClause_wording :
    Yields damageClause AllWorded := by
  apply (Yields.any _).map₂ (Yields.any _)
  intro damage comment _ _
  refine allWorded_cons.mpr ⟨wording_ofDamage damage, ?_⟩
  intro e he
  rcases Option.map_eq_some_iff.mp (Option.mem_toList.mp he) with
    ⟨s, -, rfl⟩
  have hBracket : Meaningful "(" := by decide
  exact wording_ofText
    (Or.inl ((hBracket.append s).append ")"))

theorem wording_under_none
    {conditions : Conditions}
    (damage : List Damage)
    (hNone : conditions.other = none) :
    ((ofDamage damage).under conditions).Wording := by
  apply (wording_ofDamage damage).under
  intro s hs
  rw [hNone] at hs
  cases hs

theorem versatileClause_wording :
    Yields versatileClause AllWorded :=
  (Yields.any _).map fun _ _ =>
    allWorded_cons.mpr
      ⟨wording_under_none _ rfl,
        allWorded_singleton (wording_under_none _ rfl)⟩

theorem meleeOrRangedClause_wording :
    Yields meleeOrRangedClause AllWorded :=
  (Yields.any _).map₂ (Yields.any _) fun _ _ _ _ =>
    allWorded_cons.mpr
      ⟨wording_under_none _ rfl,
        allWorded_singleton (wording_under_none _ rfl)⟩

/- Each of the circumstances in which damage changes tells. -/
theorem changingClause_wording :
    Yields changingClause AllWorded := by
  have hKnown :
      Yields ((firstOf (knownCircumstances.map literal)).padded blanks)
        Meaningful := by
    apply Yields.padded
    apply Yields.firstOf
    intro p hp
    rcases List.mem_map.mp hp with ⟨s, hs, rfl⟩
    apply (yields_literal s).mono
    rintro t rfl
    have hAll : ∀ s ∈ knownCircumstances, Meaningful s := by decide
    exact hAll t hs
  apply (Yields.any _).map₂ hKnown
  intro damage circumstance _ hMeaning
  refine allWorded_cons.mpr
    ⟨wording_ofDamage _, allWorded_singleton ?_⟩
  apply (wording_ofDamage _).under
  intro s hs
  cases hs
  exact hMeaning

theorem restOfSentence_yields :
    Yields restOfSentence fun s => Meaningful s ∨ Leftover isStop s :=
  (Yields.any _).filterMap fun _ _ _ hSome => nonBlank?_meaningful hSome

/- The remark on a grapple in place of damage is not trimmed. -/
theorem replacementClause_wording :
    Yields replacementClause AllWorded := by
  have hGrapple : Yields grappleInstead Wording := by
    apply (Yields.any _).map
    intro comment _
    constructor
    · intro s hs
      cases hs
    · intro s hs
      cases hs
    · intro a ha s hs
      cases ha
      exact Or.inr (Or.inr ⟨rfl, rfl⟩)
  have hOther : Yields otherInstead Wording :=
    restOfSentence_yields.map fun s hs =>
      (wording_ofText (hs.imp_right Or.inl)).replacingDamage
  exact Yields.map (hGrapple.orElse hOther).seqRight
    fun _ => allWorded_singleton

theorem takenDamage_wording
    (verb : String) :
    Yields (takenDamage verb) Wording :=
  (Yields.any _).map fun _ _ => wording_ofDamage _

theorem sentenceText_wording :
    Yields (ofText <$> restOfSentence) Wording :=
  restOfSentence_yields.map fun _ hs =>
    wording_ofText (hs.imp_right Or.inl)

variable (vocabulary : Vocabulary)

theorem predicate_wording :
    Yields (predicate vocabulary) Wording := by
  have hHas : Yields (hasCondition vocabulary) Wording := by
    apply (Yields.any _).map₂ (Yields.any _)
    intro condition comment _ _
    apply wording_ofCondition
    intro s hs
    rcases Option.bind_eq_some_iff.mp hs with ⟨t, -, hSome⟩
    exact nonBlank?_meaningful hSome
  have hIs : Yields (isCondition vocabulary) Wording := by
    apply (Yields.any _).map₂ (Yields.any _)
    intro condition comment _ _
    exact wording_ofCondition fun s hs => nonBlank?_meaningful hs
  apply Yields.firstOf
  simp only [List.forall_mem_cons]
  exact
    ⟨takenDamage_wording "takes", hHas, hIs, sentenceText_wording,
      List.forall_mem_nil _⟩

theorem failedOutcome_wording :
    Yields (failedOutcome vocabulary) Wording := by
  have hNone (condition : Condition) :
      (ofCondition condition none).Wording :=
    wording_ofCondition fun s hs => nomatch hs
  apply Yields.firstOf
  simp only [List.forall_mem_cons]
  exact
    ⟨takenDamage_wording "take",
      (Yields.any _).map fun condition _ => hNone condition,
      Yields.as (hNone .prone), sentenceText_wording,
      List.forall_mem_nil _⟩

theorem mustMakeClause_wording :
    Yields mustMakeClause AllWorded := by
  have hDamage :
      Yields
        ((phrase ",").optional *> literal "taking "
          *> damageClause <* phrase "on a failed save")
        AllWorded :=
    damageClause_wording.seqRight.seqLeft
  apply Yields.seq
  apply (Yields.any _).map₂ hDamage
  intro save effects _ hAll half
  exact hAll.map fun e he => he.onFailed _

theorem mustSucceedClause_wording :
    Yields (mustSucceedClause vocabulary) AllWorded := by
  have hFirst :
      Yields (mustSucceed vocabulary) fun reply => reply.2.Wording :=
    (Yields.any _).map₂ (failedOutcome_wording vocabulary).seqRight
      fun _ _ _ hEffect => hEffect.onFailed _
  have hRider :
      Yields (marginRider vocabulary) fun reply => reply.2.Wording :=
    (Yields.any _).map₂ (predicate_wording vocabulary).seqRight
      fun _ _ _ hEffect => hEffect
  apply hFirst.map₂ hRider.optional
  intro reply rider hEffect hMore
  refine allWorded_cons.mpr ⟨hEffect, ?_⟩
  cases rider with
  | none => exact allWorded_nil
  | some more =>
      exact allWorded_singleton ((hMore more rfl).onFailed _)

/- Every subject but the target tells who it is. -/
theorem subject_yields :
    Yields subject fun who => who = theTarget ∨ Meaningful who := by
  apply Yields.padded
  apply Yields.seqLeft
  apply Yields.firstOf
  simp only [List.forall_mem_cons]
  refine ⟨?_, ?_, ?_, List.forall_mem_nil _⟩
  · exact (yields_literal _).mono fun s hs => Or.inl hs
  · refine (yields_literal _).mono fun s hs => Or.inr ?_
    rw [hs]
    decide
  · refine (yields_literal _).mono fun s hs => Or.inr ?_
    rw [hs]
    decide

theorem savingThrowClause_wording :
    Yields (savingThrowClause vocabulary) AllWorded :=
  mustMakeClause_wording.orElse
    (subject_yields.map₂ (mustSucceedClause_wording vocabulary)
      fun _ _ hWho hAll => hAll.map fun _ he => he.onSubject hWho)

theorem ifTargetClause_wording :
    Yields (ifTargetClause vocabulary) AllWorded := by
  have hFirst : Yields (firstOfSave vocabulary) Wording :=
    (mustSucceedClause_wording vocabulary).filterMap
      fun effects e hAll hHead =>
        hAll e (List.mem_of_head? hHead)
  have hTarget : Meaningful "the target is " := by decide
  exact (Yields.any _).map₂
    (hFirst.orElse (predicate_wording vocabulary))
    fun kind _ _ hEffect =>
      allWorded_singleton
        (hEffect.when (hTarget.append (Text.trim kind)))

theorem subjectClause_wording :
    Yields (subjectClause vocabulary) AllWorded :=
  subject_yields.map₂ (predicate_wording vocabulary)
    fun _ _ hWho hEffect =>
      allWorded_singleton (hEffect.onSubject hWho)

/- What is kept of a residue, which is not nothing. -/
theorem wording_ofResidue
    {s t : String}
    (hResidue : residue s = t)
    (hNe : t ≠ "") :
    (ofText t).Wording := by
  rw [← hResidue] at hNe ⊢
  exact wording_ofText
    ((residue_meaningful hNe).imp_right Or.inr)

theorem textClause_wording : Yields textClause AllWorded := by
  apply (Yields.any _).filterMap
  intro s effects _ hEq
  split at hEq
  · cases hEq
  · rename_i hNe
    cases hEq
    exact allWorded_singleton (wording_ofResidue rfl hNe)

theorem listParser_wording :
    Yields (listParser vocabulary) AllWorded := by
  have hClauses :
      ∀ p ∈ clauses vocabulary, Yields p AllWorded := by
    simp only [clauses, List.forall_mem_cons]
    exact
      ⟨versatileClause_wording, meleeOrRangedClause_wording,
        changingClause_wording, replacementClause_wording,
        damageClause_wording, savingThrowClause_wording vocabulary,
        ifTargetClause_wording vocabulary,
        subjectClause_wording vocabulary, textClause_wording,
        List.forall_mem_nil _⟩
  apply (Yields.firstOf hClauses).separated.map
  intro lists hLists e he
  rcases List.mem_flatten.mp he with ⟨effects, hMem, he⟩
  exact hLists effects hMem e he

end Effect

open Effect

------------------------------------------------------------
-- Outcomes of a Save
------------------------------------------------------------

namespace SaveAction

variable {vocabulary : Vocabulary}

/- A comment with a rider in it tells what the rider does. -/
theorem allWorded_mergeRidersInto
    {merged effects : List Effect}
    (hMerged : AllWorded merged)
    (hEffects : AllWorded effects) :
    AllWorded (mergeRidersInto merged effects) := by
  fun_induction mergeRidersInto merged effects with
  | case1 merged =>
      intro e he
      exact hMerged e (List.mem_reverse.mp he)
  | case2 e more rider last before hRider applied hApplied
      comment changed ih =>
      rw [allWorded_cons] at hMerged hEffects
      refine ih (allWorded_cons.mpr ⟨?_, hMerged.2⟩) hEffects.2
      refine
        ⟨hMerged.1.circumstance, hMerged.1.other, ?_⟩
      intro a ha s hs
      cases ha
      cases hs
      exact Or.inl (meaningful_withRider (meaningful_of_rider? hRider) _)
  | case3 e more rider last before hRider hNone ih =>
      rw [allWorded_cons] at hEffects
      exact ih (allWorded_cons.mpr ⟨hEffects.1, hMerged⟩)
        hEffects.2
  | case4 merged e more hOther ih =>
      rw [allWorded_cons] at hEffects
      exact ih (allWorded_cons.mpr ⟨hEffects.1, hMerged⟩)
        hEffects.2

theorem allWorded_untiedEffects
    (vocabulary : Vocabulary)
    (block : String) :
    AllWorded (untiedEffects vocabulary block) := by
  unfold untiedEffects
  split
  · rename_i e more left hParse
    rw [Parser.parse?, Option.map_eq_some_iff] at hParse
    rcases hParse with ⟨⟨effects, r⟩, hRun, hEq⟩
    cases hEq
    apply allWorded_mergeRidersInto allWorded_nil
    intro e' he'
    rcases List.mem_append.mp he' with hRead | hLeft
    · exact (listParser_wording vocabulary).of_run hRun e' hRead
    · split at hLeft
      · cases hLeft
      · rename_i hNe
        rw [List.mem_singleton.mp hLeft]
        exact wording_ofResidue rfl hNe
  · split
    · exact allWorded_nil
    · rename_i hNe
      exact allWorded_singleton (wording_ofResidue rfl hNe)

theorem allWorded_blockEffects
    (vocabulary : Vocabulary)
    (save : SavingThrow)
    (block : String) :
    AllWorded (blockEffects vocabulary save block) := by
  unfold blockEffects
  split
  · exact allWorded_nil
  · exact (allWorded_untiedEffects vocabulary _).map
      fun e he => he.onFailed save

theorem allWorded_of_ofProse?
    {prose : Prose}
    {s : SaveAction}
    (hRead : ofProse? vocabulary prose = some s) :
    ∀ o ∈ s.outcomes, AllWorded o.effects := by
  unfold ofProse? at hRead
  split at hRead
  · cases hRead
  · dsimp only at hRead
    split at hRead
    · cases hRead
    · cases hRead
      intro o ho
      rcases List.mem_filterMap.mp ho with
        ⟨⟨kind, block⟩, -, hEq⟩
      dsimp only at hEq
      split at hEq
      · cases hEq
      · cases hEq
        exact allWorded_blockEffects vocabulary _ block

end SaveAction

------------------------------------------------------------
-- Whole Actions
------------------------------------------------------------

namespace Action

/-
  Whatever action is read from a text, the circumstances of its
  effects tell something, and so do their other texts but for
  leftovers of trimming and remarks on a grapple.
-/
theorem wording_of_ofText?
    (vocabulary : Vocabulary)
    {text rest : String}
    {action : Action}
    (hRead : ofText? vocabulary text = some (action, rest)) :
    ∀ e ∈ action.effects, e.Wording := by
  unfold ofText? at hRead
  dsimp only at hRead
  split at hRead
  · rename_i a left hAttack
    cases hRead
    rw [Parser.parse?, Option.map_eq_some_iff] at hAttack
    rcases hAttack with ⟨⟨a, r⟩, hRun, hEq⟩
    cases hEq
    rcases run_seq_eq_some.mp hRun with
      ⟨f, middle, hHead, effects, hEffects, rfl⟩
    rcases run_seq_eq_some.mp hHead with
      ⟨g, next, hHit, ranges, hRanges, rfl⟩
    rcases run_map_eq_some.mp hHit with ⟨hit, -, rfl⟩
    exact
      (listParser_wording vocabulary).seqRight.of_run hEffects
  · rcases Option.map_eq_some_iff.mp hRead with
      ⟨s, hSave, hEq⟩
    cases hEq
    intro e he
    rcases List.mem_flatMap.mp he with ⟨o, ho, he⟩
    exact SaveAction.allWorded_of_ofProse? hSave o ho e he

/- The grapple has a remark with nothing in its brackets. -/
theorem wording_of_ofText?_emptyRemark :
    ∃ action rest,
      ofText? .empty
          ("Melee Weapon Attack: +4 to hit, reach 5 ft. Hit: " ++
            "instead of dealing damage, it can grapple the " ++
            "target ().") =
          some (action, rest) ∧
        action.effects.map Effect.condition =
          [some ⟨.grappled, some ""⟩] ∧
        ∀ e ∈ action.effects, e.Wording := by
  have hRead :
      (ofText? .empty
        ("Melee Weapon Attack: +4 to hit, reach 5 ft. Hit: " ++
          "instead of dealing damage, it can grapple the " ++
          "target ().")).map
            (fun reply => reply.1.effects.map Effect.condition) =
        some [some ⟨.grappled, some ""⟩] := by
    decide +kernel
  rcases Option.map_eq_some_iff.mp hRead with
    ⟨⟨action, rest⟩, hAction, hCondition⟩
  exact
    ⟨action, rest, hAction, hCondition,
      wording_of_ofText? .empty hAction⟩

/- A blank between two stops becomes the text of an effect. -/
theorem not_telling_of_ofText? :
    ¬ ∀ (vocabulary : Vocabulary) (text rest : String)
        (action : Action),
      ofText? vocabulary text = some (action, rest) →
        ∀ e ∈ action.effects, e.Telling := by
  intro hAll
  have hRead :
      (ofText? .empty
        ("Melee Weapon Attack: +4 to hit, reach 5 ft. " ++
          "Hit: . .")).map
            (fun reply => reply.1.effects.map Effect.other) =
        some [some " "] := by
    decide +kernel
  rcases Option.map_eq_some_iff.mp hRead with
    ⟨⟨action, rest⟩, hAction, hOther⟩
  rcases List.map_eq_singleton_iff.mp hOther with
    ⟨e, hEffects, hBlank⟩
  have hTelling := hAll .empty _ rest action hAction e
    (by rw [hEffects]; exact List.mem_singleton_self e)
  exact absurd (hTelling.other " " hBlank) (by decide)

end Action

end CreatureProse
