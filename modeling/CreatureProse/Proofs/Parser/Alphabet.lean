import CreatureProse.Proofs.Parser.Character
import CreatureProse.Proofs.Parser.Scan

/-
  Parsers that read only characters of a kind. What is known of
  the parts of a parser is known of the whole.

  Main declarations:
    * `ReadsOnly`
    * `ReadsOnly.seq`
    * `ReadsOnly.repeated`
    * `readsOnly_literal`
    * `readsOnly_blanks`
-/

namespace CreatureProse.Parser

variable {α β : Type} {accept : Char → Bool}

/- A parser that reads only characters of a kind. -/
structure ReadsOnly
    (accept : Char → Bool)
    (p : Parser α) : Prop where
  of_run
    {prose : Prose}
    {c r : Cursor prose}
    {a : α} :
    p.run c = some (a, r) →
      ∃ read, c.ahead = read ++ r.ahead ∧
        ∀ b ∈ read, accept b = true

theorem ReadsOnly.le
    {p : Parser α}
    (hp : ReadsOnly accept p)
    {prose : Prose}
    {c r : Cursor prose}
    {a : α}
    (hRun : p.run c = some (a, r)) :
    c.position ≤ r.position := by
  rcases hp.of_run hRun with ⟨read, hAhead, -⟩
  exact Cursor.position_le_of_ahead_eq hAhead

theorem ReadsOnly.forward
    {p : Parser α}
    (hp : ReadsOnly accept p) :
    Forward p :=
  ⟨fun hRun => hp.le hRun⟩

------------------------------------------------------------
-- Ways of Putting Parsers Together
------------------------------------------------------------

section Combinators

variable {p q : Parser α} {s : Parser β}

theorem readsOnly_of_same
    (hSame : ∀ {prose : Prose} {c r : Cursor prose} {a : α},
      p.run c = some (a, r) → c = r) :
    ReadsOnly accept p := by
  constructor
  intro prose c r a hRun
  refine ⟨[], ?_, by simp⟩
  rw [hSame hRun, List.nil_append]

theorem ReadsOnly.map
    {f : α → β}
    (hp : ReadsOnly accept p) :
    ReadsOnly accept (f <$> p) := by
  constructor
  intro prose c r b hRun
  rcases run_map_eq_some.mp hRun with ⟨a, hFirst, -⟩
  exact hp.of_run hFirst

theorem ReadsOnly.seq
    {t : Parser (α → β)}
    (ht : ReadsOnly accept t)
    (hp : ReadsOnly accept p) :
    ReadsOnly accept (t <*> p) := by
  constructor
  intro prose c r b hRun
  rcases run_seq_eq_some.mp hRun with
    ⟨f, m, hFirst, a, hSecond, -⟩
  rcases ht.of_run hFirst with ⟨first, hAhead, hAll⟩
  rcases hp.of_run hSecond with ⟨second, hMore, hRest⟩
  refine ⟨first ++ second, ?_, ?_⟩
  · rw [hAhead, hMore, List.append_assoc]
  · intro b hb
    rcases List.mem_append.mp hb with hFront | hBack
    · exact hAll b hFront
    · exact hRest b hBack

theorem ReadsOnly.seqLeft
    (hp : ReadsOnly accept p)
    (hs : ReadsOnly accept s) :
    ReadsOnly accept (p <* s) := by
  change ReadsOnly accept (Function.const β <$> p <*> s)
  exact hp.map.seq hs

theorem ReadsOnly.seqRight
    (hp : ReadsOnly accept p)
    (hs : ReadsOnly accept s) :
    ReadsOnly accept (p *> s) := by
  change ReadsOnly accept (Function.const α id <$> p <*> s)
  exact hp.map.seq hs

theorem ReadsOnly.filterMap
    {f : α → Option β}
    (hp : ReadsOnly accept p) :
    ReadsOnly accept (p.filterMap f) := by
  constructor
  intro prose c r b hRun
  rcases run_filterMap_eq_some.mp hRun with ⟨a, hFirst, -⟩
  exact hp.of_run hFirst

theorem ReadsOnly.filter
    {keep : α → Bool}
    (hp : ReadsOnly accept p) :
    ReadsOnly accept (p.filter keep) :=
  hp.filterMap

theorem ReadsOnly.as
    {b : β}
    (hp : ReadsOnly accept p) :
    ReadsOnly accept (p.as b) :=
  hp.map

theorem ReadsOnly.orElse
    (hp : ReadsOnly accept p)
    (hq : ReadsOnly accept q) :
    ReadsOnly accept (p <|> q) := by
  constructor
  intro prose c r a hRun
  rcases run_orElse_eq_some.mp hRun with hFirst | ⟨-, hSecond⟩
  · exact hp.of_run hFirst
  · exact hq.of_run hSecond

theorem ReadsOnly.firstOf
    {ps : List (Parser α)}
    (hAll : ∀ p ∈ ps, ReadsOnly accept p) :
    ReadsOnly accept (firstOf ps) := by
  constructor
  intro prose c r a hRun
  rcases exists_of_run_firstOf hRun with ⟨p, hp, hFound⟩
  exact (hAll p hp).of_run hFound

theorem ReadsOnly.optional
    (hp : ReadsOnly accept p) :
    ReadsOnly accept p.optional := by
  constructor
  intro prose c r a? hRun
  rcases run_optional_eq_some.mp hRun with
    ⟨a, hFirst, -⟩ | ⟨-, -, rfl⟩
  · exact hp.of_run hFirst
  · exact ⟨[], rfl, by simp⟩

theorem ReadsOnly.padded
    (hp : ReadsOnly accept p)
    (hs : ReadsOnly accept s) :
    ReadsOnly accept (p.padded s) :=
  (hs.optional.seqRight hp).seqLeft hs.optional

theorem Chain.readsOnly
    (hp : ReadsOnly accept p)
    {prose : Prose}
    {c r : Cursor prose}
    {as : List α}
    (hChain : Chain p c as r) :
    ∃ read, c.ahead = read ++ r.ahead ∧
      ∀ b ∈ read, accept b = true := by
  induction hChain with
  | nil => exact ⟨[], rfl, by simp⟩
  | cons hRun hMoves hMore ih =>
      rcases hp.of_run hRun with ⟨first, hAhead, hAll⟩
      rcases ih with ⟨rest, hRest, hAllRest⟩
      refine ⟨first ++ rest, ?_, ?_⟩
      · rw [hAhead, hRest, List.append_assoc]
      · intro b hb
        rcases List.mem_append.mp hb with hFront | hBack
        · exact hAll b hFront
        · exact hAllRest b hBack

theorem ReadsOnly.repeated
    (hp : ReadsOnly accept p) :
    ReadsOnly accept p.repeated := by
  constructor
  intro prose c r as hRun
  exact (run_repeated_eq_some.mp hRun).1.readsOnly hp

theorem ReadsOnly.repeated1
    (hp : ReadsOnly accept p) :
    ReadsOnly accept p.repeated1 :=
  hp.repeated.filter

end Combinators

------------------------------------------------------------
-- Characters and Texts
------------------------------------------------------------

theorem readsOnly_character
    {kind : Char → Bool}
    (hKind : ∀ a, kind a = true → accept a = true) :
    ReadsOnly accept (character kind) := by
  constructor
  intro prose c r a hRun
  rcases run_character_eq_some.mp hRun with ⟨hA, hAhead⟩
  refine ⟨[a], hAhead, ?_⟩
  intro b hb
  rw [List.mem_singleton.mp hb]
  exact hKind a hA

theorem readsOnly_char
    {a : Char}
    (hAccept : accept a = true) :
    ReadsOnly accept (char a) := by
  apply readsOnly_character
  intro b hb
  rw [beq_iff_eq.mp hb]
  exact hAccept

theorem readsOnly_oneOf
    {set : String}
    (hAccept : set.toList.all accept = true) :
    ReadsOnly accept (oneOf set) := by
  apply readsOnly_character
  intro b hb
  exact List.all_eq_true.mp hAccept b
    (List.contains_iff_mem.mp hb)

theorem readsOnly_literal
    {expected : String}
    (hAccept : expected.toList.all accept = true) :
    ReadsOnly accept (literal expected) := by
  constructor
  intro prose c r s hRun
  exact ⟨_, (run_literal_eq_some.mp hRun).2,
    List.all_eq_true.mp hAccept⟩

theorem readsOnly_number
    (hDigit : ∀ a : Char, a.isDigit = true → accept a = true) :
    ReadsOnly accept number :=
  (readsOnly_character hDigit).repeated1.map.filterMap

theorem readsOnly_blanks
    (hAccept : " \t\r\n".toList.all accept = true) :
    ReadsOnly accept blanks :=
  (readsOnly_oneOf hAccept).repeated1.map

theorem readsOnly_wordStart : ReadsOnly accept wordStart :=
  readsOnly_of_same eq_of_run_wordStart

theorem readsOnly_wordEnd : ReadsOnly accept wordEnd :=
  readsOnly_of_same eq_of_run_wordEnd

theorem readsOnly_atEnd : ReadsOnly accept atEnd :=
  readsOnly_of_same fun hRun => (run_atEnd_eq_some.mp hRun).2

theorem readsOnly_wholeWord
    {expected : String}
    (hAccept : expected.toList.all accept = true) :
    ReadsOnly accept (wholeWord expected) :=
  (readsOnly_wordStart.seqRight
    (readsOnly_literal hAccept)).seqLeft readsOnly_wordEnd

end CreatureProse.Parser
