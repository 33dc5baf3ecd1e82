import CreatureProse.Parser.Basic
import CreatureProse.Proofs.Prose.Cursor

/-
  How parsers in sequence, choices and located parsers answer,
  and that such parsers never move back.

  Main declarations:
    * `run_seq_eq_some`
    * `run_orElse_eq_some`
    * `run_optional_eq_some`
    * `run_located_eq_some`
    * `Forward`
-/

namespace CreatureProse.Parser

variable {α β γ : Type} {prose : Prose} {c r : Cursor prose}

/- Parsers with the same answers are equal. -/
protected theorem ext
    {p q : Parser α}
    (hRun : ∀ {prose : Prose} (c : Cursor prose),
      p.run c = q.run c) :
    p = q := by
  cases p
  cases q
  congr
  funext prose c
  exact hRun c

/- A parser without an answer gives nothing. -/
theorem run_eq_none
    {p : Parser α}
    (hNever : ∀ a r, p.run c ≠ some (a, r)) :
    p.run c = none := by
  cases hRun : p.run c with
  | none => rfl
  | some reply => exact absurd hRun (hNever reply.1 reply.2)

------------------------------------------------------------
-- Answers
------------------------------------------------------------

theorem run_map
    (f : α → β)
    (p : Parser α)
    (c : Cursor prose) :
    (f <$> p).run c =
      (p.run c).map fun reply => (f reply.1, reply.2) := rfl

theorem run_seq
    (p : Parser (α → β))
    (q : Parser α)
    (c : Cursor prose) :
    (p <*> q).run c =
      (p.run c).bind fun first =>
        (q.run first.2).map fun second =>
          (first.1 second.1, second.2) := by
  change (Parser.seq p fun _ => q).run c = _
  unfold Parser.seq
  dsimp only
  cases p.run c with
  | none => rfl
  | some first =>
      obtain ⟨f, middle⟩ := first
      dsimp only [Option.bind_some]
      cases q.run middle with
      | none => rfl
      | some second => rfl

theorem run_filterMap
    (f : α → Option β)
    (p : Parser α)
    (c : Cursor prose) :
    (p.filterMap f).run c =
      (p.run c).bind fun reply =>
        (f reply.1).map fun b => (b, reply.2) := by
  unfold filterMap
  dsimp only
  cases p.run c with
  | none => rfl
  | some reply => rfl

theorem run_orElse
    (p q : Parser α)
    (c : Cursor prose) :
    (p <|> q).run c = (p.run c).or (q.run c) := by
  change (Parser.orElse p fun _ => q).run c = _
  unfold Parser.orElse
  dsimp only
  cases p.run c with
  | none => rfl
  | some reply => rfl

theorem run_optional
    (p : Parser α)
    (c : Cursor prose) :
    p.optional.run c =
      ((p.run c).map fun reply =>
        (some reply.1, reply.2)).or (some (none, c)) := by
  unfold Parser.optional
  dsimp only
  cases p.run c with
  | none => rfl
  | some reply => rfl

theorem run_located
    (p : Parser α)
    (c : Cursor prose) :
    p.located.run c =
      (p.run c).map fun reply =>
        (⟨reply.1, ⟨c.position, reply.2.position⟩⟩, reply.2) := by
  unfold located
  dsimp only
  cases p.run c with
  | none => rfl
  | some reply => rfl

------------------------------------------------------------
-- Sequence
------------------------------------------------------------

@[simp] theorem run_pure_eq_some
    {a b : α} :
    (pure a : Parser α).run c = some (b, r) ↔
      a = b ∧ c = r := by
  change some (a, c) = some (b, r) ↔ _
  rw [Option.some.injEq, Prod.mk.injEq]

@[simp] theorem run_map_eq_some
    {p : Parser α}
    {f : α → β}
    {b : β} :
    (f <$> p).run c = some (b, r) ↔
      ∃ a, p.run c = some (a, r) ∧ f a = b := by
  rw [run_map, Option.map_eq_some_iff]
  constructor
  · rintro ⟨⟨a, rest⟩, hRun, hEq⟩
    cases hEq
    exact ⟨a, hRun, rfl⟩
  · rintro ⟨a, hRun, rfl⟩
    exact ⟨(a, r), hRun, rfl⟩

theorem run_map_eq_none
    {p : Parser α}
    (f : α → β)
    (hNone : p.run c = none) :
    (f <$> p).run c = none := by
  apply run_eq_none
  intro b r hRun
  rcases run_map_eq_some.mp hRun with ⟨a, hFirst, -⟩
  rw [hNone] at hFirst
  cases hFirst

@[simp] theorem run_seq_eq_some
    {p : Parser (α → β)}
    {q : Parser α}
    {b : β} :
    (p <*> q).run c = some (b, r) ↔
      ∃ f middle, p.run c = some (f, middle) ∧
        ∃ a, q.run middle = some (a, r) ∧ f a = b := by
  rw [run_seq, Option.bind_eq_some_iff]
  simp only [Option.map_eq_some_iff, Prod.mk.injEq]
  constructor
  · rintro ⟨⟨f, middle⟩, hFirst, ⟨a, rest⟩, hSecond, rfl, rfl⟩
    exact ⟨f, middle, hFirst, a, hSecond, rfl⟩
  · rintro ⟨f, middle, hFirst, a, hSecond, rfl⟩
    exact ⟨(f, middle), hFirst, (a, r), hSecond, rfl, rfl⟩

@[simp] theorem run_seqLeft_eq_some
    {p : Parser α}
    {q : Parser β}
    {a : α} :
    (p <* q).run c = some (a, r) ↔
      ∃ middle, p.run c = some (a, middle) ∧
        ∃ b, q.run middle = some (b, r) := by
  change (Function.const β <$> p <*> q).run c = some (a, r) ↔ _
  simp only [run_seq_eq_some, run_map_eq_some]
  constructor
  · rintro ⟨_, middle, ⟨a, hFirst, rfl⟩, b, hSecond, rfl⟩
    exact ⟨middle, hFirst, b, hSecond⟩
  · rintro ⟨middle, hFirst, b, hSecond⟩
    exact
      ⟨_, middle, ⟨a, hFirst, rfl⟩, b, hSecond, rfl⟩

@[simp] theorem run_seqRight_eq_some
    {p : Parser α}
    {q : Parser β}
    {b : β} :
    (p *> q).run c = some (b, r) ↔
      ∃ a middle, p.run c = some (a, middle) ∧
        q.run middle = some (b, r) := by
  change (Function.const α id <$> p <*> q).run c =
    some (b, r) ↔ _
  simp only [run_seq_eq_some, run_map_eq_some]
  constructor
  · rintro ⟨_, middle, ⟨a, hFirst, rfl⟩, b, hSecond, rfl⟩
    exact ⟨a, middle, hFirst, hSecond⟩
  · rintro ⟨a, middle, hFirst, hSecond⟩
    exact
      ⟨_, middle, ⟨a, hFirst, rfl⟩, b, hSecond, rfl⟩

@[simp] theorem run_filterMap_eq_some
    {p : Parser α}
    {f : α → Option β}
    {b : β} :
    (p.filterMap f).run c = some (b, r) ↔
      ∃ a, p.run c = some (a, r) ∧ f a = some b := by
  rw [run_filterMap, Option.bind_eq_some_iff]
  simp only [Option.map_eq_some_iff, Prod.mk.injEq]
  constructor
  · rintro ⟨⟨a, rest⟩, hFirst, b, hValue, rfl, rfl⟩
    exact ⟨a, hFirst, hValue⟩
  · rintro ⟨a, hFirst, hValue⟩
    exact ⟨(a, r), hFirst, b, hValue, rfl, rfl⟩

@[simp] theorem run_filter_eq_some
    {p : Parser α}
    {keep : α → Bool}
    {a : α} :
    (p.filter keep).run c = some (a, r) ↔
      p.run c = some (a, r) ∧ keep a = true := by
  rw [filter, run_filterMap_eq_some]
  constructor
  · rintro ⟨b, hRun, hKeep⟩
    split at hKeep
    · rename_i hTrue
      cases hKeep
      exact ⟨hRun, hTrue⟩
    · cases hKeep
  · rintro ⟨hRun, hKeep⟩
    exact ⟨a, hRun, by rw [if_pos hKeep]⟩

@[simp] theorem run_as_eq_some
    {p : Parser α}
    {b b' : β} :
    (p.as b).run c = some (b', r) ↔
      (∃ a, p.run c = some (a, r)) ∧ b = b' := by
  rw [Parser.as, run_map_eq_some]
  constructor
  · rintro ⟨a, hRun, rfl⟩
    exact ⟨⟨a, hRun⟩, rfl⟩
  · rintro ⟨⟨a, hRun⟩, rfl⟩
    exact ⟨a, hRun, rfl⟩

------------------------------------------------------------
-- Choice
------------------------------------------------------------

theorem run_orElse_eq_some
    {p q : Parser α}
    {a : α} :
    (p <|> q).run c = some (a, r) ↔
      p.run c = some (a, r) ∨
        p.run c = none ∧ q.run c = some (a, r) := by
  rw [run_orElse, Option.or_eq_some_iff]

theorem run_firstOf_cons
    {p : Parser α}
    {ps : List (Parser α)}
    {a : α} :
    (firstOf (p :: ps)).run c = some (a, r) ↔
      p.run c = some (a, r) ∨
        p.run c = none ∧ (firstOf ps).run c = some (a, r) := by
  rw [firstOf, run_orElse_eq_some]

/- A parser with an answer is the first one. -/
theorem run_firstOf_of_some
    {p : Parser α}
    {reply : α × Cursor prose}
    (ps : List (Parser α))
    (hRun : p.run c = some reply) :
    (firstOf (p :: ps)).run c = some reply :=
  run_firstOf_cons.mpr (Or.inl hRun)

/- A parser without an answer makes way for the others. -/
theorem run_firstOf_of_none
    {p : Parser α}
    (ps : List (Parser α))
    (hNone : p.run c = none) :
    (firstOf (p :: ps)).run c = (firstOf ps).run c := by
  rw [firstOf, run_orElse, hNone, Option.none_or]

/- What the first parser that can reads is read by one. -/
theorem exists_of_run_firstOf
    {ps : List (Parser α)}
    {a : α}
    (hRun : (firstOf ps).run c = some (a, r)) :
    ∃ p ∈ ps, p.run c = some (a, r) := by
  induction ps with
  | nil => cases hRun
  | cons p ps ih =>
      rcases run_firstOf_cons.mp hRun with hHead | ⟨-, hMore⟩
      · exact ⟨p, List.mem_cons_self .., hHead⟩
      · rcases ih hMore with ⟨q, hq, hFound⟩
        exact ⟨q, List.mem_cons_of_mem p hq, hFound⟩

/- If the first parser that can reads nothing, none of them does. -/
theorem run_eq_none_of_run_firstOf
    {ps : List (Parser α)}
    (hNone : (firstOf ps).run c = none) :
    ∀ p ∈ ps, p.run c = none := by
  induction ps with
  | nil => exact List.forall_mem_nil _
  | cons p ps ih =>
      rw [firstOf, run_orElse, Option.or_eq_none_iff] at hNone
      exact List.forall_mem_cons.mpr ⟨hNone.1, ih hNone.2⟩

theorem run_optional_eq_some
    {p : Parser α}
    {a? : Option α} :
    p.optional.run c = some (a?, r) ↔
      (∃ a, p.run c = some (a, r) ∧ some a = a?) ∨
        p.run c = none ∧ none = a? ∧ c = r := by
  rw [run_optional]
  cases p.run c with
  | none => simp
  | some reply =>
      simp only [Option.map_some, Option.some_or,
        Option.some.injEq, Prod.mk.injEq, reduceCtorEq,
        false_and, or_false]
      constructor
      · rintro ⟨rfl, rfl⟩
        exact ⟨reply.1, rfl, rfl⟩
      · rintro ⟨a, rfl, rfl⟩
        exact ⟨rfl, rfl⟩

/- What is optional never stands in the way. -/
theorem exists_run_optional
    (p : Parser α)
    (c : Cursor prose) :
    ∃ a? r, p.optional.run c = some (a?, r) := by
  rw [run_optional]
  cases p.run c with
  | none => exact ⟨none, c, rfl⟩
  | some reply => exact ⟨some reply.1, reply.2, rfl⟩

------------------------------------------------------------
-- Positions
------------------------------------------------------------

@[simp] theorem run_located_eq_some
    {p : Parser α}
    {a : Located α} :
    p.located.run c = some (a, r) ↔
      p.run c = some (a.value, r) ∧
        a.span = ⟨c.position, r.position⟩ := by
  rw [run_located, Option.map_eq_some_iff]
  constructor
  · rintro ⟨reply, hRun, hEq⟩
    cases hEq
    exact ⟨hRun, rfl⟩
  · rintro ⟨hRun, hSpan⟩
    exact ⟨(a.value, r), hRun, by rw [← hSpan]⟩

theorem run_atEnd_eq_some
    {u : Unit} :
    atEnd.run c = some (u, r) ↔ c.atEnd = true ∧ c = r := by
  change (if c.atEnd then some ((), c) else none) = _ ↔ _
  cases c.atEnd with
  | true => simp
  | false => simp

theorem run_rest_eq_some
    {s : String} :
    rest.run c = some (s, r) ↔
      c.rest = s ∧ Cursor.stop prose = r := by
  change some (c.rest, Cursor.stop prose) = some (s, r) ↔ _
  rw [Option.some.injEq, Prod.mk.injEq]

------------------------------------------------------------
-- Parsers That Never Move Back
------------------------------------------------------------

/- A parser that answers with the same or a later position. -/
class Forward (p : Parser α) : Prop where
  le
    {prose : Prose}
    {c r : Cursor prose}
    {a : α} :
    p.run c = some (a, r) → c.position ≤ r.position

section Forward

variable
  {p q : Parser α}
  {s : Parser β}
  [Forward p]
  [Forward s]

instance
    {f : α → β} :
    Forward (f <$> p) where
  le hRun := by
    rcases run_map_eq_some.mp hRun with ⟨a, hFirst, -⟩
    exact Forward.le hFirst

instance
    {t : Parser (α → β)}
    [Forward t] :
    Forward (t <*> p) where
  le hRun := by
    rcases run_seq_eq_some.mp hRun with
      ⟨f, middle, hFirst, a, hSecond, -⟩
    exact Nat.le_trans (Forward.le hFirst) (Forward.le hSecond)

instance : Forward (p <* s) where
  le hRun := by
    rcases run_seqLeft_eq_some.mp hRun with
      ⟨middle, hFirst, b, hSecond⟩
    exact Nat.le_trans (Forward.le hFirst) (Forward.le hSecond)

instance : Forward (p *> s) where
  le hRun := by
    rcases run_seqRight_eq_some.mp hRun with
      ⟨a, middle, hFirst, hSecond⟩
    exact Nat.le_trans (Forward.le hFirst) (Forward.le hSecond)

instance
    {f : α → Option β} :
    Forward (p.filterMap f) where
  le hRun := by
    rcases run_filterMap_eq_some.mp hRun with ⟨a, hFirst, -⟩
    exact Forward.le hFirst

instance
    {keep : α → Bool} :
    Forward (p.filter keep) where
  le hRun := Forward.le (run_filter_eq_some.mp hRun).1

instance
    {b : β} :
    Forward (p.as b) :=
  inferInstanceAs (Forward ((fun _ => b) <$> p))

instance [Forward q] : Forward (p <|> q) where
  le hRun := by
    rcases run_orElse_eq_some.mp hRun with hFirst | ⟨-, hSecond⟩
    · exact Forward.le hFirst
    · exact Forward.le hSecond

instance : Forward p.optional where
  le hRun := by
    rcases run_optional_eq_some.mp hRun with
      ⟨a, hFirst, -⟩ | ⟨-, -, rfl⟩
    · exact Forward.le hFirst
    · exact Nat.le_refl _

instance : Forward p.located where
  le hRun := Forward.le (run_located_eq_some.mp hRun).1

instance : Forward (p.padded s) :=
  inferInstanceAs (Forward (s.optional *> p <* s.optional))

instance : Forward (firstOf ([] : List (Parser α))) where
  le hRun := by cases hRun

instance
    {ps : List (Parser α)}
    [Forward (firstOf ps)] :
    Forward (firstOf (p :: ps)) :=
  inferInstanceAs (Forward (p <|> firstOf ps))

end Forward

instance (a : α) : Forward (pure a) where
  le hRun :=
    Nat.le_of_eq
      (congrArg Cursor.position (run_pure_eq_some.mp hRun).2)

instance : Forward (failure : Parser α) where
  le hRun := by cases hRun

instance : Forward atEnd where
  le hRun :=
    Nat.le_of_eq
      (congrArg Cursor.position (run_atEnd_eq_some.mp hRun).2)

instance : Forward rest where
  le {_ c _ _} hRun := by
    rw [← (run_rest_eq_some.mp hRun).2]
    exact c.position_le

end CreatureProse.Parser
