import CreatureProse.Proofs.Parser.Repeat
import Mathlib.Data.List.Forall2

/-
  Parsers that agree on a text: at each of its positions both of
  them answer alike. They agree if their parts do, and with an
  added test of what they read if the tests do not differ on what
  can be read from this text.

  Main declarations:
    * `AgreeOn`
    * `agreeOn_filterMap`
    * `AgreeOn.seq`
    * `AgreeOn.firstOf`
    * `AgreeOn.separated`
-/

namespace CreatureProse.Parser

variable {α β γ : Type} {prose : Prose}

/- Two parsers answer alike at every position of a text. -/
structure AgreeOn
    (prose : Prose)
    (p q : Parser α) : Prop where
  run_eq (c : Cursor prose) : p.run c = q.run c

namespace AgreeOn

variable
  {p q : Parser α}
  {s : Parser β}

theorem refl (p : Parser α) : AgreeOn prose p p :=
  ⟨fun _ => rfl⟩

theorem symm
    (hSame : AgreeOn prose p q) :
    AgreeOn prose q p :=
  ⟨fun c => (hSame.run_eq c).symm⟩

theorem parse?_eq
    (hSame : AgreeOn prose p q) :
    p.parse? prose = q.parse? prose := by
  rw [parse?, parse?, hSame.run_eq]

------------------------------------------------------------
-- Sequence
------------------------------------------------------------

theorem map
    (hSame : AgreeOn prose p q)
    (f : α → β) :
    AgreeOn prose (f <$> p) (f <$> q) := by
  constructor
  intro c
  rw [run_map, run_map, hSame.run_eq]

theorem seq
    {t u : Parser (α → β)}
    (hFirst : AgreeOn prose t u)
    (hSecond : AgreeOn prose p q) :
    AgreeOn prose (t <*> p) (u <*> q) := by
  constructor
  intro c
  rw [run_seq, run_seq, hFirst.run_eq]
  simp only [hSecond.run_eq]

theorem seqLeft
    (hSame : AgreeOn prose p q) :
    AgreeOn prose (p <* s) (q <* s) :=
  (hSame.map (Function.const β)).seq (.refl s)

theorem seqRight
    (hSame : AgreeOn prose p q) :
    AgreeOn prose (s *> p) (s *> q) :=
  (AgreeOn.refl (Function.const β id <$> s)).seq hSame

theorem padded
    (hSame : AgreeOn prose p q) :
    AgreeOn prose (p.padded s) (q.padded s) :=
  hSame.seqRight.seqLeft

theorem filterMap
    (hSame : AgreeOn prose p q)
    (f : α → Option β) :
    AgreeOn prose (p.filterMap f) (q.filterMap f) := by
  constructor
  intro c
  rw [run_filterMap, run_filterMap, hSame.run_eq]

------------------------------------------------------------
-- Choice
------------------------------------------------------------

theorem orElse
    {t u : Parser α}
    (hFirst : AgreeOn prose p q)
    (hSecond : AgreeOn prose t u) :
    AgreeOn prose (p <|> t) (q <|> u) := by
  constructor
  intro c
  rw [run_orElse, run_orElse, hFirst.run_eq, hSecond.run_eq]

theorem firstOf
    {ps qs : List (Parser α)}
    (hSame : List.Forall₂ (AgreeOn prose) ps qs) :
    AgreeOn prose (firstOf ps) (firstOf qs) := by
  induction hSame with
  | nil => exact .refl _
  | cons hHead hMore ih => exact hHead.orElse ih

theorem optional
    (hSame : AgreeOn prose p q) :
    AgreeOn prose p.optional q.optional := by
  constructor
  intro c
  rw [run_optional, run_optional, hSame.run_eq]

------------------------------------------------------------
-- Separated Lists
------------------------------------------------------------

theorem listed
    (hSame : AgreeOn prose p q)
    {before c last : Cursor prose}
    {as : List α}
    (hListed : Listed p s before c as last) :
    Listed q s before c as last := by
  induction hListed with
  | stop hNone =>
      exact .stop ((hSame.run_eq _).symm.trans hNone)
  | last hRun hNone =>
      exact .last ((hSame.run_eq _).symm.trans hRun) hNone
  | more hRun hSeparator hMore ih =>
      exact .more ((hSame.run_eq _).symm.trans hRun) hSeparator ih

theorem separated
    {t : Parser γ}
    (hSame : AgreeOn prose p q) :
    AgreeOn prose (separated p s t) (separated q s t) := by
  constructor
  intro c
  apply Option.ext
  rintro ⟨as, r⟩
  rw [run_separated_eq_some, run_separated_eq_some]
  constructor
  · rintro ⟨last, hListed, hEnd⟩
    exact ⟨last, hSame.listed hListed, hEnd⟩
  · rintro ⟨last, hListed, hEnd⟩
    exact ⟨last, hSame.symm.listed hListed, hEnd⟩

end AgreeOn

/- Tests may differ on what is never read from the text. -/
theorem agreeOn_filterMap
    {p : Parser α}
    {f g : α → Option β}
    (hSame : ∀ (c r : Cursor prose) (a : α),
      p.run c = some (a, r) → f a = g a) :
    AgreeOn prose (p.filterMap f) (p.filterMap g) := by
  constructor
  intro c
  rw [run_filterMap, run_filterMap]
  cases hRun : p.run c with
  | none => rfl
  | some reply =>
      rw [Option.bind_some, Option.bind_some,
        hSame c reply.2 reply.1 hRun]

end CreatureProse.Parser
