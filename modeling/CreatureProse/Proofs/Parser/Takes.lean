import CreatureProse.Proofs.Parser.Numeral
import CreatureProse.Proofs.Parser.Start
import Mathlib.Algebra.Group.Nat.Defs

/-
  What a parser takes from a text that is written out: a piece
  of it, wherever that piece is next and what follows is as the
  parser requires. The pieces of parts make up the piece of the
  whole.

  Main declarations:
    * `Takes`
    * `Takes.seq`
    * `Takes.orElse_right`
    * `Takes.repeated`
    * `Takes.seek`
    * `takes_number`
    * `takes_signedNumber`
-/

namespace CreatureProse.Parser

variable {α β : Type}

/-
  A parser that gives a value for a text wherever the text is
  next and is followed in the right way.
-/
structure Takes
    (p : Parser α)
    (text : List Char)
    (follow : List Char → Prop)
    (a : α) : Prop where
  run
    {prose : Prose}
    {c r : Cursor prose}
    (hAhead : c.ahead = text ++ r.ahead)
    (hFollow : follow r.ahead) :
    p.run c = some (a, r)

/- Anything may follow. -/
def anything (_ : List Char) : Prop :=
  True

------------------------------------------------------------
-- Ways of Putting Parsers Together
------------------------------------------------------------

section Combinators

variable
  {p q : Parser α}
  {s : Parser β}
  {a : α}
  {b : β}
  {text more : List Char}
  {follow after : List Char → Prop}

theorem Takes.mono
    (hp : Takes p text follow a)
    (hFollow : ∀ rest, after rest → follow rest) :
    Takes p text after a :=
  ⟨fun hAhead hAfter => hp.run hAhead (hFollow _ hAfter)⟩

theorem Takes.map
    (hp : Takes p text follow a)
    (f : α → β) :
    Takes (f <$> p) text follow (f a) :=
  ⟨fun hAhead hFollow =>
    run_map_eq_some.mpr ⟨a, hp.run hAhead hFollow, rfl⟩⟩

/- What the second part takes must be able to follow the first. -/
theorem Takes.seq
    {k : Parser (α → β)}
    {f : α → β}
    (hk : Takes k text follow f)
    (hp : Takes p more after a)
    (hNext : ∀ rest, after rest → follow (more ++ rest)) :
    Takes (k <*> p) (text ++ more) after (f a) := by
  constructor
  intro prose c r hAhead hAfter
  rw [List.append_assoc] at hAhead
  rcases Cursor.exists_of_ahead_eq_append hAhead with ⟨m, hMiddle⟩
  have hFirst : k.run c = some (f, m) := by
    apply hk.run
    · rw [hMiddle, hAhead]
    · rw [hMiddle]
      exact hNext _ hAfter
  exact run_seq_eq_some.mpr
    ⟨f, m, hFirst, a, hp.run hMiddle hAfter, rfl⟩

theorem Takes.seqLeft
    (hp : Takes p text follow a)
    (hs : Takes s more after b)
    (hNext : ∀ rest, after rest → follow (more ++ rest)) :
    Takes (p <* s) (text ++ more) after a :=
  (hp.map (Function.const β)).seq hs hNext

theorem Takes.seqRight
    (hp : Takes p text follow a)
    (hs : Takes s more after b)
    (hNext : ∀ rest, after rest → follow (more ++ rest)) :
    Takes (p *> s) (text ++ more) after b :=
  (hp.map (Function.const α id)).seq hs hNext

theorem Takes.filterMap
    {f : α → Option β}
    (hp : Takes p text follow a)
    (hValue : f a = some b) :
    Takes (p.filterMap f) text follow b :=
  ⟨fun hAhead hFollow =>
    run_filterMap_eq_some.mpr
      ⟨a, hp.run hAhead hFollow, hValue⟩⟩

theorem Takes.as
    (hp : Takes p text follow a)
    (b : β) :
    Takes (p.as b) text follow b :=
  hp.map fun _ => b

theorem Takes.optional
    (hp : Takes p text follow a) :
    Takes p.optional text follow (some a) :=
  ⟨fun hAhead hFollow =>
    run_optional_eq_some.mpr
      (Or.inl ⟨a, hp.run hAhead hFollow, rfl⟩)⟩

/- What cannot start there is left out. -/
theorem Starts.takes_none
    {accept : Char → Bool}
    (hp : Starts accept p) :
    Takes p.optional [] (NotNext accept) none :=
  ⟨fun hAhead hFollow =>
    have hSame := Cursor.eq_of_ahead_eq hAhead
    run_optional_eq_some.mpr
      (Or.inr ⟨hp.run_eq_none (hSame ▸ hFollow), rfl, hSame⟩)⟩

theorem Takes.orElse_left
    (hp : Takes p text follow a)
    (q : Parser α) :
    Takes (p <|> q) text follow a :=
  ⟨fun hAhead hFollow =>
    run_orElse_eq_some.mpr (Or.inl (hp.run hAhead hFollow))⟩

theorem Takes.orElse_right
    (hq : Takes q text follow a)
    (hNone : ∀ {prose : Prose} {c : Cursor prose}
      {rest : List Char}, c.ahead = text ++ rest → p.run c = none) :
    Takes (p <|> q) text follow a :=
  ⟨fun hAhead hFollow =>
    run_orElse_eq_some.mpr
      (Or.inr ⟨hNone hAhead, hq.run hAhead hFollow⟩)⟩

/- A repetition ends where no further element is read. -/
theorem Takes.repeated1
    (hp : Takes p text follow a)
    (hNe : text ≠ [])
    (hStop : ∀ {prose : Prose} {c : Cursor prose},
      follow c.ahead → p.run c = none) :
    Takes p.repeated1 text follow [a] := by
  constructor
  intro prose c r hAhead hFollow
  have hMoves := Cursor.position_lt_of_ahead_eq hAhead hNe
  have hStuck : Stuck p r := by
    intro b m hRun
    rw [hStop hFollow] at hRun
    cases hRun
  exact run_repeated1_eq_some.mpr
    ⟨⟨.cons (hp.run hAhead hFollow) hMoves .nil, hStuck⟩,
      List.cons_ne_nil a []⟩

/- A repetition takes the pieces of its elements in turn. -/
theorem Takes.repeated
    {pieces : List (List Char × α)}
    (hPieces : ∀ x ∈ pieces, x.1 ≠ [] ∧ Takes p x.1 follow x.2)
    (hNext : ∀ x ∈ pieces, ∀ rest, follow (x.1 ++ rest))
    (hLast : ∀ rest, after rest → follow rest)
    (hStop : ∀ {prose : Prose} {c : Cursor prose},
      after c.ahead → p.run c = none) :
    Takes p.repeated (pieces.flatMap Prod.fst) after
      (pieces.map Prod.snd) := by
  constructor
  intro prose c r hAhead hAfter
  have hStuck : Stuck p r := by
    intro b m hRun
    rw [hStop hAfter] at hRun
    cases hRun
  refine run_repeated_eq_some.mpr ⟨?_, hStuck⟩
  induction pieces generalizing c with
  | nil =>
      cases Cursor.eq_of_ahead_eq hAhead
      exact .nil
  | cons x more ih =>
      rw [List.flatMap_cons, List.append_assoc] at hAhead
      rcases Cursor.exists_of_ahead_eq_append hAhead with
        ⟨m, hMiddle⟩
      rw [← hMiddle] at hAhead
      rw [List.forall_mem_cons] at hPieces hNext
      have hFollow : follow m.ahead := by
        rw [hMiddle]
        cases more with
        | nil => exact hLast _ hAfter
        | cons y more =>
            rw [List.flatMap_cons, List.append_assoc]
            exact hNext.2 y (List.mem_cons_self ..) _
      have hMoves :=
        Cursor.position_lt_of_ahead_eq hAhead hPieces.1.1
      exact .cons (hPieces.1.2.run hAhead hFollow) hMoves
        (ih hPieces.2 hNext.2 hMiddle)

/- A search skips what the parser cannot start with. -/
theorem Takes.seek
    {accept : Char → Bool}
    (hp : Takes p text follow a)
    (skipped : List Char)
    (hStarts : Starts accept p)
    (hSkipped : skipped.all (fun b => !accept b) = true) :
    Takes p.seek (skipped ++ text) follow
      (String.ofList skipped, a) := by
  have hOthers : ∀ b ∈ skipped, accept b = false := by
    intro b hMem
    have hNot := List.all_eq_true.mp hSkipped b hMem
    rwa [Bool.not_eq_true'] at hNot
  constructor
  intro prose c r hAhead hFollow
  rw [List.append_assoc] at hAhead
  rcases Cursor.exists_of_ahead_eq_append hAhead with ⟨m, hMiddle⟩
  rw [← hMiddle] at hAhead
  rw [run_seek,
    hStarts.seekFrom_eq_some hAhead hOthers
      (hp.run hMiddle hFollow),
    Option.map_some, Cursor.textUntil_eq hAhead]

end Combinators

------------------------------------------------------------
-- Characters and Texts
------------------------------------------------------------

/- What comes next is known from a text that begins with it. -/
theorem notNext_append
    {accept : Char → Bool}
    {cs rest : List Char}
    (hFirst : cs.head?.any (fun a => !accept a) = true) :
    NotNext accept (cs ++ rest) := by
  cases cs with
  | nil => cases hFirst
  | cons a more =>
      rw [List.head?_cons, Option.any_some, Bool.not_eq_true']
        at hFirst
      rw [List.cons_append, notNext_cons]
      exact hFirst

/- The characters of blanks. -/
def isSpacing (a : Char) : Bool :=
  " \t\r\n".toList.contains a

/- A character that is not as all blanks are is no blank. -/
theorem isSpacing_eq_false
    {kind : Char → Bool}
    {a : Char}
    (hBlanks : " \t\r\n".toList.all kind = true)
    (hKind : kind a = false) :
    isSpacing a = false := by
  cases hSpacing : isSpacing a with
  | false => rfl
  | true =>
      have hMem := List.contains_iff_mem.mp hSpacing
      rw [List.all_eq_true.mp hBlanks a hMem] at hKind
      cases hKind

theorem takes_char (a : Char) : Takes (char a) [a] anything a :=
  ⟨fun hAhead _ => run_char_eq_some.mpr ⟨rfl, hAhead⟩⟩

theorem takes_literal (s : String) :
    Takes (literal s) s.toList anything s :=
  ⟨fun hAhead _ => run_literal_eq_some.mpr ⟨rfl, hAhead⟩⟩

theorem starts_spacing : Starts isSpacing blanks :=
  starts_blanks (by decide)

/- A single space is read as blanks. -/
theorem takes_blank : Takes blanks [' '] (NotNext isSpacing) " " := by
  constructor
  intro prose c r hAhead hFollow
  refine run_map_eq_some.mpr ⟨[' '], ?_, rfl⟩
  exact run_repeated1_character_eq_some.mpr
    ⟨⟨⟨List.forall_mem_singleton.mpr (by decide), hAhead⟩, hFollow⟩,
      List.cons_ne_nil _ _⟩

/- Nothing but a blank is missing where no blank is next. -/
theorem run_optional_blanks
    {prose : Prose}
    {c : Cursor prose}
    (hNext : NotNext isSpacing c.ahead) :
    blanks.optional.run c = some (none, c) :=
  starts_spacing.takes_none.run rfl hNext

------------------------------------------------------------
-- Words
------------------------------------------------------------

theorem run_wordStart
    {prose : Prose}
    {c : Cursor prose}
    (hStart : ∀ a ∈ c.previous?, Text.isAlphanumeric a = false) :
    wordStart.run c = some ((), c) := by
  have hNone : c.previous?.any Text.isAlphanumeric = false := by
    rw [Option.any_eq_false]
    intro a ha
    rw [hStart a ha]
  unfold wordStart
  dsimp only
  rw [hNone]
  rfl

/- Where a word begins, none goes on from the left. -/
theorem previous?_of_run_wordStart
    {prose : Prose}
    {c r : Cursor prose}
    {u : Unit}
    (hRun : wordStart.run c = some (u, r)) :
    ∀ a ∈ c.previous?, Text.isAlphanumeric a = false := by
  unfold wordStart at hRun
  dsimp only at hRun
  split at hRun
  · cases hRun
  · rename_i hNone
    rwa [Bool.not_eq_true, Option.any_eq_false] at hNone

theorem takes_wordEnd :
    Takes wordEnd [] (NotNext Text.isAlphanumeric) () := by
  constructor
  intro prose c r hAhead hFollow
  cases Cursor.eq_of_ahead_eq hAhead
  have hNone : c.peek?.any Text.isAlphanumeric = false := by
    rw [c.peek?_eq_head?_ahead, Option.any_eq_false]
    intro a ha
    rw [hFollow a ha]
  unfold wordEnd
  dsimp only
  rw [hNone]
  rfl

/- Where a word ends, none goes on to the right. -/
theorem notNext_of_run_wordEnd
    {prose : Prose}
    {c r : Cursor prose}
    {u : Unit}
    (hRun : wordEnd.run c = some (u, r)) :
    NotNext Text.isAlphanumeric c.ahead := by
  unfold wordEnd at hRun
  dsimp only at hRun
  split at hRun
  · cases hRun
  · rename_i hNone
    rwa [c.peek?_eq_head?_ahead, Bool.not_eq_true,
      Option.any_eq_false] at hNone

theorem run_wholeWord
    {prose : Prose}
    {c r : Cursor prose}
    {s : String}
    (hStart : ∀ a ∈ c.previous?, Text.isAlphanumeric a = false)
    (hAhead : c.ahead = s.toList ++ r.ahead)
    (hFollow : NotNext Text.isAlphanumeric r.ahead) :
    (wholeWord s).run c = some (s, r) := by
  have hText : (literal s).run c = some (s, r) :=
    run_literal_eq_some.mpr ⟨rfl, hAhead⟩
  exact run_seqLeft_eq_some.mpr
    ⟨r, run_seqRight_eq_some.mpr
        ⟨(), c, run_wordStart hStart, hText⟩,
      (), takes_wordEnd.run rfl hFollow⟩

/- What reads a text after a space takes it with the space. -/
theorem takes_blank_then
    {p : Parser α}
    {text : List Char}
    {follow : List Char → Prop}
    {a : α}
    (hFirst : text.head?.any (fun a => !isSpacing a) = true)
    (hRun : ∀ {prose : Prose} {c r : Cursor prose},
      c.previous? = some ' ' → c.ahead = text ++ r.ahead →
        follow r.ahead → p.run c = some (a, r)) :
    Takes (blanks.optional *> p) (' ' :: text) follow a := by
  constructor
  intro prose c r hAhead hFollow
  rcases Cursor.exists_of_ahead_eq_cons hAhead with ⟨m, hMiddle⟩
  have hOne : c.ahead = ' ' :: m.ahead := by
    rw [hMiddle, hAhead]
    rfl
  have hSpace : blanks.optional.run c = some (some " ", m) := by
    apply takes_blank.optional.run hOne
    rw [hMiddle]
    exact notNext_append hFirst
  exact run_seqRight_eq_some.mpr
    ⟨some " ", m, hSpace,
      hRun (Cursor.previous?_eq_some hOne) hMiddle hFollow⟩

------------------------------------------------------------
-- Numbers
------------------------------------------------------------

theorem takes_number (n : UInt32) :
    Takes number (toString n.toNat).toList
      (NotNext Char.isDigit) n :=
  ⟨fun hAhead hFollow =>
    run_number_eq_some.mpr
      ⟨_, numeral_toString n, hAhead, hFollow⟩⟩

theorem takes_sign (m : Int) :
    Takes sign [if m < 0 then '-' else '+'] anything
      (if m < 0 then -1 else 1) := by
  constructor
  intro prose c r hAhead hFollow
  rw [sign, run_signs_eq_some]
  by_cases hNeg : m < 0
  · rw [if_pos hNeg] at hAhead ⊢
    exact Or.inr ⟨rfl, hAhead⟩
  · rw [if_neg hNeg] at hAhead ⊢
    exact Or.inl ⟨rfl, hAhead⟩

/- A signed number is read if its size has at most 31 bits. -/
theorem takes_signedNumber
    {m : Int}
    (hLe : m.natAbs ≤ 2 ^ 31 - 1) :
    Takes signedNumber (Text.signed m).toList
      (NotNext Char.isDigit) (Int32.ofInt m) := by
  have hSize : (UInt32.ofNat m.natAbs).toNat = m.natAbs :=
    UInt32.toNat_ofNat_of_lt'
      (Nat.lt_of_le_of_lt hLe (by decide))
  have hNumber :
      Takes number (toString m.natAbs).toList
        (NotNext Char.isDigit) (UInt32.ofNat m.natAbs) := by
    have hTakes := takes_number (UInt32.ofNat m.natAbs)
    rw [hSize] at hTakes
    exact hTakes
  have hProduct : (if m < 0 then -1 else 1) * (m.natAbs : Int) = m := by
    split
    · omega
    · omega
  rw [Text.toList_signed]
  refine (((takes_sign m).map _).seq hNumber
    fun _ _ => trivial).filterMap ?_
  dsimp only
  rw [hSize, if_pos (by omega), hProduct]

end CreatureProse.Parser
