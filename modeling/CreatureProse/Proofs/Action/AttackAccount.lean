import CreatureProse.Action.Basic
import CreatureProse.Proofs.Action.EffectAccount

/-
  Damage after the ranges of an attack. It is kept by an effect,
  as damage or as text, or left over, unless it lies in one of
  the passages that the grammar passes over.

  Main declarations:
    * `Attack.headParser`
    * `Attack.gap`
    * `Attack.Kept`
    * `Attack.kept_or_meets_gap`
    * `Attack.LosesNothing`
    * `Attack.not_losesNothing`
-/

namespace CreatureProse

open CreatureProse.Parser Clause

namespace Attack

/- An attack up to the end of its ranges. -/
def headParser : Parser (List AttackRange) :=
  labelParser *> hitParser
    <* (literal "," *> blanks.optional).optional
    *> rangesParser

/-
  The gaps after the ranges of an attack: its target, and those
  of its effects.
-/
def gap (vocabulary : Vocabulary) : Gap :=
  .either (.whole targetParser)
    (.after targetParser.optional
      (.after
        (blanks.optional *> (literal "hit:").optional
          *> blanks.optional)
        (Effect.listGap vocabulary)))

/-
  Damage is not lost: an effect of the attack has it or has its
  text, or its text is left over.
-/
def Kept
    (a : Attack)
    (rest : String)
    (d : Damage)
    (text : String) : Prop :=
  Effect.AnyKeeps a.effects d text ∨ Occurs text rest

theorem accounts_effects (vocabulary : Vocabulary) :
    Accounts (targetParser.optional *> effectsParser vocabulary)
      Effect.AnyKeeps (gap vocabulary) := by
  have hTarget :
      Accounts targetParser.optional (fun _ _ _ => False)
        (.whole targetParser) := by
    apply (accounts_whole targetParser
      fun _ _ _ => False).optional.imp
    rintro target d text ⟨u, -, hNever⟩
    exact hNever
  have hLabel :
      Barren
        (blanks.optional *> (literal "hit:").optional
          *> blanks.optional) :=
    (barren_blanks.optional.seqRight
      (barren_literal (by decide)).optional).seqRight
        barren_blanks.optional
  exact hTarget.seqRight_gap
    ((Effect.accounts_listParser vocabulary).seqRight hLabel)

/- An attack is its head and what comes after its ranges. -/
theorem exists_of_run_attack
    {vocabulary : Vocabulary}
    {prose : Prose}
    {b r : Cursor prose}
    {a : Attack}
    (hRun : (parser vocabulary).run b = some (a, r)) :
    ∃ c, headParser.run b = some (a.ranges, c) ∧
      (targetParser.optional *> effectsParser vocabulary).run c =
        some (a.effects, r) := by
  rcases run_seq_eq_some.mp hRun with
    ⟨f, m, hRanged, effects, hEffects, rfl⟩
  rcases run_seq_eq_some.mp hRanged with
    ⟨g, n, hHit, ranges, hRanges, rfl⟩
  rcases run_map_eq_some.mp hHit with ⟨hit, hStart, rfl⟩
  rcases run_seqLeft_eq_some.mp hRanges with
    ⟨c, hRange, target, hTarget⟩
  exact
    ⟨c, run_seqRight_eq_some.mpr ⟨hit, n, hStart, hRange⟩,
      run_seqRight_eq_some.mpr ⟨target, m, hTarget, hEffects⟩⟩

/-
  Every damage clause after the ranges of an attack is kept, or
  it has a character in common with a passage that is passed
  over: the target; what stands between a save that has to
  succeed and its outcome; what stands before a grapple in place
  of damage; a closing bracket; the rest of a sentence after a
  comment in brackets; or a word that is read as a condition.
  What happens when a save fails by a margin is left open where
  the save is for targets of a certain kind.
-/
theorem kept_or_meets_gap
    (vocabulary : Vocabulary)
    {text rest : String}
    {a : Attack}
    (hRead :
      Action.ofText? vocabulary text = some (.attack a, rest)) :
    ∃ c : Cursor (Prose.folded text),
      headParser.run (Cursor.start _) = some (a.ranges, c) ∧
        ∀ (x y : Cursor (Prose.folded text)) d,
          DamageClause x y d → c.position ≤ x.position →
            a.Kept rest d (x.textUntil y) ∨
              (gap vocabulary).Meets c x y := by
  unfold Action.ofText? at hRead
  dsimp only at hRead
  split at hRead
  · rename_i attack left hAttack
    cases hRead
    rw [Parser.parse?, Option.map_eq_some_iff] at hAttack
    rcases hAttack with ⟨⟨attack, r⟩, hRun, hEq⟩
    cases hEq
    rcases exists_of_run_attack hRun with ⟨c, hHead, hEffects⟩
    refine ⟨c, hHead, ?_⟩
    intro x y d hClause hFirst
    by_cases hBefore : x.position < r.position
    · exact ((accounts_effects vocabulary).of_run hEffects
        hClause hFirst hBefore).imp_left Or.inl
    · left
      right
      exact Cursor.textUntil_infix_rest
        (Nat.le_of_not_lt hBefore) (Nat.le_of_lt hClause.lt)
  · rcases Option.map_eq_some_iff.mp hRead with ⟨s, -, hEq⟩
    cases hEq

/- An attack with one damage clause. -/
def emberBite : String :=
  "Melee Weapon Attack: +4 to hit, reach 5 ft. Hit: 5 fire damage"

/- The clause of such an attack is kept or meets a gap. -/
theorem kept_or_meets_gap_emberBite :
    ∃ a,
      Action.ofText? .empty emberBite = some (.attack a, "") ∧
        ∃ c : Cursor (Prose.folded emberBite),
          headParser.run (Cursor.start _) = some (a.ranges, c) ∧
            ∀ (x y : Cursor (Prose.folded emberBite)) d,
              DamageClause x y d → c.position ≤ x.position →
                a.Kept "" d (x.textUntil y) ∨
                  (gap .empty).Meets c x y := by
  have hRead :
      (Action.ofText? .empty emberBite).map
          (fun (action, rest) => (action.isAttack, rest)) =
        some (true, "") := by
    decide +kernel
  rcases Option.map_eq_some_iff.mp hRead with
    ⟨⟨action, rest⟩, hAction, hParts⟩
  cases action with
  | save s => cases hParts
  | attack a =>
      rw [Prod.mk.injEq] at hParts
      rcases hParts with ⟨-, rfl⟩
      exact ⟨a, hAction, kept_or_meets_gap .empty hAction⟩

------------------------------------------------------------
-- Passages That Are Passed Over
------------------------------------------------------------

/-
  Nothing is lost of an attack that is read from a text: every
  damage clause after its ranges is kept.
-/
def LosesNothing
    (vocabulary : Vocabulary)
    (text : String) : Prop :=
  ∀ a rest,
    Action.ofText? vocabulary text = some (.attack a, rest) →
      ∀ ranges (c x y : Cursor (Prose.folded text)) d,
        headParser.run (Cursor.start _) = some (ranges, c) →
          DamageClause x y d → c.position ≤ x.position →
            a.Kept rest d (x.textUntil y)

instance
    (e : Effect)
    (d : Damage)
    (text : String) :
    Decidable (e.Keeps d text) := by
  unfold Effect.Keeps Effect.Tells
  infer_instance

instance
    (a : Attack)
    (rest : String)
    (d : Damage)
    (text : String) :
    Decidable (a.Kept rest d text) := by
  unfold Kept Effect.AnyKeeps
  infer_instance

/- Whether the damage at an offset after the ranges is lost. -/
def losesAt
    (vocabulary : Vocabulary)
    (text : String)
    (offset : Nat) : Bool :=
  let x := Cursor.clamped (Prose.folded text) offset
  match Action.ofText? vocabulary text,
      headParser.run (Cursor.start (Prose.folded text)),
      Damage.parser.run x with
  | some (.attack a, rest), some (_, c), some (d, y) =>
    decide
      (x.previous?.all (fun b => !b.isDigit) = true ∧
        c.position ≤ x.position ∧
        ¬ a.Kept rest d (x.textUntil y))
  | _, _, _ => false

theorem not_losesNothing_of_losesAt
    {vocabulary : Vocabulary}
    {text : String}
    (offset : Nat)
    (hLoses : losesAt vocabulary text offset = true) :
    ¬ LosesNothing vocabulary text := by
  intro hNothing
  unfold losesAt at hLoses
  dsimp only at hLoses
  split at hLoses
  · rename_i a rest ranges c d y hRead hHead hDamage
    rcases of_decide_eq_true hLoses with
      ⟨hPrevious, hAfter, hLost⟩
    have hIsolated :
        ∀ b ∈ (Cursor.clamped (Prose.folded text)
            offset).previous?,
          b.isDigit = false := by
      intro b hb
      rw [hb, Option.all_some, Bool.not_eq_true'] at hPrevious
      exact hPrevious
    exact hLost
      (hNothing a rest hRead ranges c _ y d hHead
        ⟨hDamage, hIsolated⟩ hAfter)
  · cases hLoses

/-
  Damage is lost in the target, between a save and its outcome,
  before a grapple, across a closing bracket, after a comment in
  brackets, and when a word of it is read as a condition.
-/
theorem not_losesNothing :
    ¬ LosesNothing .standard
        ("Melee Weapon Attack: +4 to hit, reach 5 ft., " ++
          "5 fire damage. Hit: 1 cold damage.") ∧
      ¬ LosesNothing .standard
        ("Melee Weapon Attack: +4 to hit, reach 5 ft. Hit: " ++
          "the target must succeed on a DC 11 Wisdom saving " ++
          "throw, taking 5 fire damage, or be knocked prone.") ∧
      ¬ LosesNothing .standard
        ("Melee Weapon Attack: +4 to hit, reach 5 ft. Hit: " ++
          "instead of dealing damage, it deals 5 fire damage " ++
          "to grapple the target.") ∧
      ¬ LosesNothing .standard
        ("Melee Weapon Attack: +4 to hit, reach 5 ft. Hit: " ++
          "1 cold damage (4 (1d6) fire damage") ∧
      ¬ LosesNothing .standard
        ("Melee Weapon Attack: +4 to hit, reach 5 ft. Hit: " ++
          "the target is prone (escape DC 11) and takes " ++
          "5 fire damage.") ∧
      ¬ LosesNothing (Vocabulary.empty.register "5" .stunned)
        ("Melee Weapon Attack: +4 to hit, reach 5 ft. Hit: " ++
          "the target is 5 fire damage.") :=
  ⟨not_losesNothing_of_losesAt 45 (by decide +kernel),
    not_losesNothing_of_losesAt 112
      (by decide +kernel),
    not_losesNothing_of_losesAt 85
      (by decide +kernel),
    not_losesNothing_of_losesAt 64
      (by decide +kernel),
    not_losesNothing_of_losesAt 94
      (by decide +kernel),
    not_losesNothing_of_losesAt 63
      (by decide +kernel)⟩

end Attack

end CreatureProse
