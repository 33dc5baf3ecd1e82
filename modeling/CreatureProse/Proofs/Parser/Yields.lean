import CreatureProse.Proofs.Parser.Character
import CreatureProse.Proofs.Parser.Scan

/-
  Properties of the values that a parser reads, whatever the
  text is. They carry over from the parts of a parser to the
  whole.

  Main declarations:
    * `Yields`
    * `Yields.map₂`
    * `Yields.firstOf`
    * `Yields.separated`
-/

namespace CreatureProse.Parser

variable {α β γ : Type}

/- Every value that a parser reads has a property. -/
structure Yields
    (p : Parser α)
    (good : α → Prop) : Prop where
  of_run
    {prose : Prose}
    {c r : Cursor prose}
    {a : α} :
    p.run c = some (a, r) → good a

/- Nothing is known of the values of some parsers. -/
theorem Yields.any (p : Parser α) : Yields p fun _ => True :=
  ⟨fun _ => trivial⟩

variable
  {p q : Parser α}
  {s : Parser β}
  {A : α → Prop}
  {B : β → Prop}
  {C : γ → Prop}

theorem Yields.mono
    {good : α → Prop}
    (hp : Yields p A)
    (hGood : ∀ a, A a → good a) :
    Yields p good :=
  ⟨fun hRun => hGood _ (hp.of_run hRun)⟩

theorem yields_literal
    (expected : String) :
    Yields (literal expected) fun s => s = expected :=
  ⟨fun hRun => (run_literal_eq_some.mp hRun).1.symm⟩

theorem Yields.map
    {f : α → β}
    (hp : Yields p A)
    (hGood : ∀ a, A a → B (f a)) :
    Yields (f <$> p) B := by
  constructor
  intro prose c r b hRun
  rcases run_map_eq_some.mp hRun with ⟨a, hFirst, rfl⟩
  exact hGood a (hp.of_run hFirst)

theorem Yields.map₂
    {f : α → β → γ}
    (hp : Yields p A)
    (hs : Yields s B)
    (hGood : ∀ a b, A a → B b → C (f a b)) :
    Yields (f <$> p <*> s) C := by
  constructor
  intro prose c r d hRun
  rcases run_seq_eq_some.mp hRun with
    ⟨g, middle, hMap, b, hSecond, rfl⟩
  rcases run_map_eq_some.mp hMap with ⟨a, hFirst, rfl⟩
  exact hGood a b (hp.of_run hFirst) (hs.of_run hSecond)

theorem Yields.seqBoth
    {t : Parser (α → β)}
    (ht : Yields t fun f => ∀ a, A a → B (f a))
    (hp : Yields p A) :
    Yields (t <*> p) B := by
  constructor
  intro prose c r b hRun
  rcases run_seq_eq_some.mp hRun with
    ⟨f, m, hFirst, a, hSecond, rfl⟩
  exact ht.of_run hFirst a (hp.of_run hSecond)

/- A last part on whose value nothing depends. -/
theorem Yields.seq
    {t : Parser (α → β)}
    (ht : Yields t fun f => ∀ a, B (f a)) :
    Yields (t <*> p) B :=
  (ht.mono fun _ hAll a _ => hAll a).seqBoth (.any p)

theorem Yields.seqLeft
    (hp : Yields p A) :
    Yields (p <* s) A := by
  constructor
  intro prose c r a hRun
  rcases run_seqLeft_eq_some.mp hRun with ⟨middle, hFirst, -⟩
  exact hp.of_run hFirst

theorem Yields.seqRight
    (hs : Yields s B) :
    Yields (p *> s) B := by
  constructor
  intro prose c r b hRun
  rcases run_seqRight_eq_some.mp hRun with
    ⟨a, middle, -, hSecond⟩
  exact hs.of_run hSecond

theorem Yields.padded
    (hp : Yields p A) :
    Yields (p.padded s) A :=
  hp.seqRight.seqLeft

theorem Yields.filterMap
    {f : α → Option β}
    (hp : Yields p A)
    (hGood : ∀ a b, A a → f a = some b → B b) :
    Yields (p.filterMap f) B := by
  constructor
  intro prose c r b hRun
  rcases run_filterMap_eq_some.mp hRun with ⟨a, hFirst, hEq⟩
  exact hGood a b (hp.of_run hFirst) hEq

theorem yields_filter
    (p : Parser α)
    (keep : α → Bool) :
    Yields (p.filter keep) fun a => keep a = true :=
  ⟨fun hRun => (run_filter_eq_some.mp hRun).2⟩

theorem Yields.as
    {b : β}
    (hb : B b) :
    Yields (p.as b) B := by
  constructor
  intro prose c r a hRun
  rw [← (run_as_eq_some.mp hRun).2]
  exact hb

theorem Yields.orElse
    (hp : Yields p A)
    (hq : Yields q A) :
    Yields (p <|> q) A := by
  constructor
  intro prose c r a hRun
  rcases run_orElse_eq_some.mp hRun with hFirst | ⟨-, hSecond⟩
  · exact hp.of_run hFirst
  · exact hq.of_run hSecond

theorem Yields.firstOf
    {ps : List (Parser α)}
    (hAll : ∀ p ∈ ps, Yields p A) :
    Yields (firstOf ps) A := by
  constructor
  intro prose c r a hRun
  rcases exists_of_run_firstOf hRun with ⟨p, hp, hFound⟩
  exact (hAll p hp).of_run hFound

theorem Yields.optional
    (hp : Yields p A) :
    Yields p.optional fun a? => ∀ a ∈ a?, A a := by
  constructor
  intro prose c r a? hRun
  rcases run_optional_eq_some.mp hRun with
    ⟨a, hFirst, rfl⟩ | ⟨-, rfl, -⟩
  · intro b hb
    cases hb
    exact hp.of_run hFirst
  · intro b hb
    cases hb

theorem Yields.located
    (hp : Yields p A) :
    Yields p.located fun a => A a.value :=
  ⟨fun hRun => hp.of_run (run_located_eq_some.mp hRun).1⟩

theorem Chain.forall_mem
    (hp : Yields p A)
    {prose : Prose}
    {c r : Cursor prose}
    {as : List α}
    (hChain : Chain p c as r) :
    ∀ a ∈ as, A a := by
  induction hChain with
  | nil => exact List.forall_mem_nil A
  | cons hRun hMoves hMore ih =>
      exact List.forall_mem_cons.mpr ⟨hp.of_run hRun, ih⟩

theorem Yields.repeated
    (hp : Yields p A) :
    Yields p.repeated fun as => ∀ a ∈ as, A a :=
  ⟨fun hRun => (run_repeated_eq_some.mp hRun).1.forall_mem hp⟩

theorem Listed.forall_mem
    (hp : Yields p A)
    {prose : Prose}
    {before c r : Cursor prose}
    {as : List α}
    (hListed : Listed p s before c as r) :
    ∀ a ∈ as, A a := by
  induction hListed with
  | stop hNone =>
      intro a ha
      cases ha
  | last hRun hNone =>
      intro a ha
      rw [List.mem_singleton.mp ha]
      exact hp.of_run hRun
  | more hRun hSeparator hMore ih =>
      intro a ha
      rcases List.mem_cons.mp ha with rfl | ha
      · exact hp.of_run hRun
      · exact ih a ha

theorem Yields.separated
    {t : Parser γ}
    (hp : Yields p A) :
    Yields (separated p s t) fun as => ∀ a ∈ as, A a := by
  constructor
  intro prose c r as hRun
  rcases run_separated_eq_some.mp hRun with ⟨last, hListed, -⟩
  exact hListed.forall_mem hp

end CreatureProse.Parser
