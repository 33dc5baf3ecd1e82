import CreatureProse.Proofs.Parser.Alphabet

/-
  Parsers that read only where a character of a kind is next. A
  search for one passes over all other characters.

  Main declarations:
    * `Starts`
    * `Starts.run_eq_none`
    * `Starts.seekFrom_eq_some`
    * `run_separated_eq_nil`
-/

namespace CreatureProse.Parser

variable {α β γ : Type} {accept : Char → Bool}

/- A parser that reads only where a character of a kind is next. -/
structure Starts
    (accept : Char → Bool)
    (p : Parser α) : Prop where
  of_run
    {prose : Prose}
    {c r : Cursor prose}
    {a : α} :
    p.run c = some (a, r) →
      ∃ b rest, c.ahead = b :: rest ∧ accept b = true

theorem Starts.run_eq_none
    {p : Parser α}
    (hp : Starts accept p)
    {prose : Prose}
    {c : Cursor prose}
    (hNext : NotNext accept c.ahead) :
    p.run c = none := by
  apply Parser.run_eq_none
  intro a r hRun
  rcases hp.of_run hRun with ⟨b, rest, hAhead, hAccept⟩
  rw [hAhead, notNext_cons, hAccept] at hNext
  cases hNext

theorem Starts.mono
    {kind : Char → Bool}
    {p : Parser α}
    (hp : Starts kind p)
    (hKind : ∀ a, kind a = true → accept a = true) :
    Starts accept p := by
  constructor
  intro prose c r a hRun
  rcases hp.of_run hRun with ⟨b, rest, hAhead, hb⟩
  exact ⟨b, rest, hAhead, hKind b hb⟩

/- Nothing is found among characters of no such kind. -/
theorem Starts.seekFrom_eq_some
    {p : Parser α}
    (hp : Starts accept p)
    {prose : Prose}
    {c s r : Cursor prose}
    {a : α}
    {skipped : List Char}
    (hAhead : c.ahead = skipped ++ s.ahead)
    (hSkipped : ∀ b ∈ skipped, accept b = false)
    (hRun : p.run s = some (a, r)) :
    p.seekFrom c = some (s, a, r) := by
  have hPosition := Cursor.position_eq_add_length hAhead
  apply seekFrom_eq_some_of_first (by omega) hRun
  intro d hFrom hLt
  apply Parser.run_eq_none
  intro b e hOther
  rcases hp.of_run hOther with ⟨x, rest, hNext, hAccept⟩
  have hMem := Cursor.mem_of_position_lt hAhead hNext hFrom hLt
  rw [hSkipped x hMem] at hAccept
  cases hAccept

------------------------------------------------------------
-- Ways of Putting Parsers Together
------------------------------------------------------------

section Combinators

variable {p q : Parser α} {s : Parser β}

theorem Starts.map
    {f : α → β}
    (hp : Starts accept p) :
    Starts accept (f <$> p) := by
  constructor
  intro prose c r b hRun
  rcases run_map_eq_some.mp hRun with ⟨a, hFirst, -⟩
  exact hp.of_run hFirst

theorem Starts.seq
    {t : Parser (α → β)}
    (ht : Starts accept t)
    (p : Parser α) :
    Starts accept (t <*> p) := by
  constructor
  intro prose c r b hRun
  rcases run_seq_eq_some.mp hRun with ⟨f, m, hFirst, -⟩
  exact ht.of_run hFirst

theorem Starts.seqLeft
    (hp : Starts accept p)
    (s : Parser β) :
    Starts accept (p <* s) :=
  hp.map.seq s

theorem Starts.seqRight
    (hp : Starts accept p)
    (s : Parser β) :
    Starts accept (p *> s) :=
  hp.map.seq s

theorem Starts.filterMap
    {f : α → Option β}
    (hp : Starts accept p) :
    Starts accept (p.filterMap f) := by
  constructor
  intro prose c r b hRun
  rcases run_filterMap_eq_some.mp hRun with ⟨a, hFirst, -⟩
  exact hp.of_run hFirst

theorem Starts.orElse
    (hp : Starts accept p)
    (hq : Starts accept q) :
    Starts accept (p <|> q) := by
  constructor
  intro prose c r a hRun
  rcases run_orElse_eq_some.mp hRun with hFirst | ⟨-, hSecond⟩
  · exact hp.of_run hFirst
  · exact hq.of_run hSecond

theorem Starts.firstOf
    {ps : List (Parser α)}
    (hAll : ∀ p ∈ ps, Starts accept p) :
    Starts accept (firstOf ps) := by
  constructor
  intro prose c r a hRun
  rcases exists_of_run_firstOf hRun with ⟨p, hp, hFound⟩
  exact (hAll p hp).of_run hFound

/- What may be left out in front starts in the same way. -/
theorem Starts.optionalThen
    (hs : Starts accept s)
    (hp : Starts accept p) :
    Starts accept (s.optional *> p) := by
  constructor
  intro prose c r a hRun
  rcases run_seqRight_eq_some.mp hRun with ⟨b?, m, hFirst, hSecond⟩
  rcases run_optional_eq_some.mp hFirst with
    ⟨b, hRead, -⟩ | ⟨-, -, rfl⟩
  · exact hs.of_run hRead
  · exact hp.of_run hSecond

theorem Starts.padded
    (hp : Starts accept p)
    (hs : Starts accept s) :
    Starts accept (p.padded s) :=
  (hs.optionalThen hp).seqLeft _

theorem Starts.repeated1
    (hp : Starts accept p) :
    Starts accept p.repeated1 := by
  constructor
  intro prose c r as hRun
  rcases run_repeated1_eq_some.mp hRun with ⟨⟨hChain, -⟩, hNe⟩
  cases hChain with
  | nil => exact absurd rfl hNe
  | cons hFirst hMoves hMore => exact hp.of_run hFirst

/- A list that must not be empty starts with an element. -/
theorem Starts.separated
    {t : Parser γ}
    {keep : List α → Bool}
    (hp : Starts accept p)
    (hNone : keep [] = false) :
    Starts accept ((separated p s t).filter keep) := by
  constructor
  intro prose c r as hRun
  rcases run_filter_eq_some.mp hRun with ⟨hList, hKeep⟩
  rcases run_separated_eq_some.mp hList with ⟨last, hListed, -⟩
  cases hListed with
  | stop hNever =>
      rw [hNone] at hKeep
      cases hKeep
  | last hFirst hEnd => exact hp.of_run hFirst
  | more hFirst hNext hMore => exact hp.of_run hFirst

end Combinators

------------------------------------------------------------
-- Characters and Texts
------------------------------------------------------------

theorem starts_character
    {kind : Char → Bool}
    (hKind : ∀ a, kind a = true → accept a = true) :
    Starts accept (character kind) := by
  constructor
  intro prose c r a hRun
  rcases run_character_eq_some.mp hRun with ⟨hA, hAhead⟩
  exact ⟨a, r.ahead, hAhead, hKind a hA⟩

theorem starts_char
    {a : Char}
    (hAccept : accept a = true) :
    Starts accept (char a) := by
  apply starts_character
  intro b hb
  rw [beq_iff_eq.mp hb]
  exact hAccept

theorem starts_literal
    {expected : String}
    (hAccept : expected.toList.head?.any accept = true) :
    Starts accept (literal expected) := by
  constructor
  intro prose c r s hRun
  have hAhead := (run_literal_eq_some.mp hRun).2
  cases hText : expected.toList with
  | nil =>
      rw [hText] at hAccept
      cases hAccept
  | cons a rest =>
      rw [hText] at hAhead hAccept
      exact ⟨a, rest ++ r.ahead, hAhead, hAccept⟩

theorem starts_number
    (hDigit : ∀ a : Char, a.isDigit = true → accept a = true) :
    Starts accept number :=
  (starts_character hDigit).repeated1.map.filterMap

theorem starts_blanks
    (hAccept : " \t\r\n".toList.all accept = true) :
    Starts accept blanks := by
  apply Starts.map
  apply Starts.repeated1
  apply starts_character
  intro a ha
  exact List.all_eq_true.mp hAccept a (List.contains_iff_mem.mp ha)

------------------------------------------------------------
-- Lists With Separators
------------------------------------------------------------

section Separated

variable {element : Parser α} {separator : Parser β}

/- Without a first element the list is empty. -/
theorem run_separated_eq_nil
    {prose : Prose}
    {c : Cursor prose}
    (hNone : element.run c = none) :
    (separated element separator (pure ())).run c =
      some ([], c) := by
  rw [run_separated, separateFrom, hNone]
  rfl

end Separated

end CreatureProse.Parser
