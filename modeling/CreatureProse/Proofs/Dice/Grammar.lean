import CreatureProse.Dice.Grammar
import CreatureProse.Proofs.Parser.Character
import CreatureProse.Proofs.Parser.Scan

/-
  The texts of dice expressions, as a grammar apart from the
  parser. What the parser reads anywhere is such a text, and of
  such a text alone it reads all. So a roll that is found inside
  a longer text is read again from its own characters.

  Main declarations:
    * `DiceExpression.Written`
    * `DiceExpression.written_of_run`
    * `DiceExpression.run_of_written`
-/

namespace CreatureProse.DiceExpression

open CreatureProse.Parser

variable {prose : Prose} {c r : Cursor prose}

------------------------------------------------------------
-- Written Expressions
------------------------------------------------------------

/- The text of a pool or of a number. -/
inductive Term : List Char → DiceExpression → Prop where
| pool
    {counted sized : List Char}
    {count sides : UInt32}
    (hCount : Numeral counted count)
    (hSides : Numeral sized sides) :
    Term (counted ++ 'd' :: sized) (.pool count sides)
| constant
    {digits : List Char}
    {n : UInt32}
    (hNumber : Numeral digits n)
    (hSmall : n.toNat < 0x80000000) :
    Term digits (.constant (Int32.ofInt n.toNat))

/- The character of an operator. -/
def symbolChar : Operator → Char
| .add => '+'
| .subtract => '-'

/- An operator with spaces around it. -/
inductive Joint : List Char → Operator → Prop where
| mk
    {before after : List Char}
    (op : Operator)
    (hBefore : ∀ a ∈ before, a = ' ')
    (hAfter : ∀ a ∈ after, a = ' ') :
    Joint (before ++ symbolChar op :: after) op

/- Terms with an operator in front of each. -/
inductive Tail :
    List Char → List (Operator × DiceExpression) → Prop where
| nil : Tail [] []
| cons
    {joint term rest : List Char}
    {op : Operator}
    {e : DiceExpression}
    {more : List (Operator × DiceExpression)}
    (hJoint : Joint joint op)
    (hTerm : Term term e)
    (hRest : Tail rest more) :
    Tail (joint ++ (term ++ rest)) ((op, e) :: more)

/- The text of a dice expression. -/
inductive Written : List Char → DiceExpression → Prop where
| sum
    {term rest : List Char}
    {first : DiceExpression}
    {more : List (Operator × DiceExpression)}
    (hFirst : Term term first)
    (hMore : Tail rest more) :
    Written (term ++ rest) (joinTerms first more)
| bonus
    {digits : List Char}
    {n : UInt32}
    (hNumber : Numeral digits n)
    (hSmall : n.toNat < 0x80000000) :
    Written ('+' :: digits) (check (Int32.ofInt (1 * n.toNat)))
| penalty
    {digits : List Char}
    {n : UInt32}
    (hNumber : Numeral digits n)
    (hSmall : n.toNat < 0x80000000) :
    Written ('-' :: digits) (check (Int32.ofInt (-1 * n.toNat)))

------------------------------------------------------------
-- Terms
------------------------------------------------------------

/- A term begins with a digit. -/
theorem Term.exists_digit
    {cs : List Char}
    {e : DiceExpression}
    (hTerm : Term cs e) :
    ∃ a rest, cs = a :: rest ∧ a.isDigit = true := by
  cases hTerm with
  | pool hNumber hSides | constant hNumber hSmall =>
      rcases List.exists_cons_of_ne_nil hNumber.ne_nil with
        ⟨a, rest, rfl⟩
      exact ⟨a, _, rfl, hNumber.isDigit a (by simp)⟩

theorem run_poolParser_eq_some
    {e : DiceExpression} :
    poolParser.run c = some (e, r) ↔
      ∃ count sides m, e = .pool count sides ∧
        number.run c = some (count, m) ∧
        ∃ n : Cursor prose, m.ahead = 'd' :: n.ahead ∧
          number.run n = some (sides, r) := by
  rw [poolParser]
  simp only [run_seq_eq_some, run_map_eq_some,
    run_seqLeft_eq_some, run_char_eq_some]
  constructor
  · rintro
      ⟨_, n, ⟨count, ⟨m, hCount, d, rfl, hMark⟩, rfl⟩,
        sides, hSides, rfl⟩
    exact ⟨count, sides, m, rfl, hCount, n, hMark, hSides⟩
  · rintro
      ⟨count, sides, m, rfl, hCount, n, hMark, hSides⟩
    exact
      ⟨_, n, ⟨count, ⟨m, hCount, 'd', rfl, hMark⟩, rfl⟩,
        sides, hSides, rfl⟩

theorem run_constantParser_eq_some
    {e : DiceExpression} :
    constantParser.run c = some (e, r) ↔
      ∃ n, number.run c = some (n, r) ∧
        n.toNat < 0x80000000 ∧
        e = .constant (Int32.ofInt n.toNat) := by
  rw [constantParser, run_filterMap_eq_some]
  constructor
  · rintro ⟨n, hNumber, hValue⟩
    split at hValue
    · rename_i hSmall
      cases hValue
      exact ⟨n, hNumber, hSmall, rfl⟩
    · cases hValue
  · rintro ⟨n, hNumber, hSmall, rfl⟩
    exact ⟨n, hNumber, by rw [if_pos hSmall]⟩

/- A term is read up to where its last number ends. -/
theorem term_of_run
    {e : DiceExpression}
    (hRun : termParser.run c = some (e, r)) :
    ∃ cs, Term cs e ∧ c.ahead = cs ++ r.ahead := by
  rcases run_orElse_eq_some.mp hRun with hPool | ⟨-, hConstant⟩
  · rcases run_poolParser_eq_some.mp hPool with
      ⟨count, sides, m, rfl, hCount, n, hMark, hSides⟩
    rcases run_number_eq_some.mp hCount with
      ⟨counted, hCounted, hFirst, -⟩
    rcases run_number_eq_some.mp hSides with
      ⟨sized, hSized, hSecond, -⟩
    refine ⟨_, .pool hCounted hSized, ?_⟩
    rw [hFirst, hMark, hSecond, List.append_assoc,
      List.cons_append]
  · rcases run_constantParser_eq_some.mp hConstant with
      ⟨n, hNumber, hSmall, rfl⟩
    rcases run_number_eq_some.mp hNumber with
      ⟨digits, hDigits, hAhead, -⟩
    exact ⟨digits, .constant hDigits hSmall, hAhead⟩

theorem exists_digit_of_run_termParser
    {e : DiceExpression}
    (hRun : termParser.run c = some (e, r)) :
    ∃ a rest, c.ahead = a :: rest ∧ a.isDigit = true := by
  rcases term_of_run hRun with ⟨cs, hTerm, hAhead⟩
  rcases hTerm.exists_digit with ⟨a, rest, rfl, hDigit⟩
  exact ⟨a, rest ++ r.ahead, hAhead, hDigit⟩

/- What neither goes on a number nor makes a pool of it. -/
def endsTerm (a : Char) : Bool :=
  a.isDigit || a == 'd'

/- Terms are made of digits and the mark of a pool. -/
theorem Term.endsTerm_of_mem
    {cs : List Char}
    {e : DiceExpression}
    {a : Char}
    (hTerm : Term cs e)
    (ha : a ∈ cs) :
    endsTerm a = true := by
  have hNumeral
      {digits : List Char}
      {n : UInt32}
      (hDigits : Numeral digits n)
      (hMem : a ∈ digits) :
      endsTerm a = true := by
    rw [endsTerm, hDigits.isDigit a hMem, Bool.true_or]
  cases hTerm with
  | pool hCount hSides =>
      rcases List.mem_append.mp ha with hMem | hMem
      · exact hNumeral hCount hMem
      · rcases List.mem_cons.mp hMem with rfl | hMem
        · rfl
        · exact hNumeral hSides hMem
  | constant hNumber hSmall => exact hNumeral hNumber ha

theorem notNext_isDigit
    {cs : List Char}
    (hNext : NotNext endsTerm cs) :
    NotNext Char.isDigit cs := by
  intro a ha
  have hNeither := hNext a ha
  rw [endsTerm, Bool.or_eq_false_iff] at hNeither
  exact hNeither.1

/- A written term is read where nothing goes on with it. -/
theorem run_of_term
    {cs : List Char}
    {e : DiceExpression}
    (hTerm : Term cs e)
    (hAhead : c.ahead = cs ++ r.ahead)
    (hNext : NotNext endsTerm r.ahead) :
    termParser.run c = some (e, r) := by
  rw [termParser, run_orElse_eq_some]
  cases hTerm with
  | pool hCount hSides =>
      rename_i counted sized count sides
      rw [List.append_assoc, List.cons_append] at hAhead
      rcases Cursor.exists_of_ahead_eq_append hAhead with
        ⟨m, hMark⟩
      have hSized :=
        hMark.trans (List.singleton_append ..).symm
      rcases Cursor.exists_of_ahead_eq_append hSized with
        ⟨n, hSecond⟩
      left
      rw [run_poolParser_eq_some]
      refine ⟨count, sides, m, rfl, ?_, n, ?_, ?_⟩
      · rw [run_number_eq_some]
        refine ⟨counted, hCount, by rw [hAhead, hMark], ?_⟩
        rw [hMark, notNext_cons]
        decide
      · rw [hMark, hSecond]
      · rw [run_number_eq_some]
        exact ⟨sized, hSides, hSecond, notNext_isDigit hNext⟩
  | constant hNumber hSmall =>
      rename_i n
      have hRun : number.run c = some (n, r) :=
        run_number_eq_some.mpr
          ⟨cs, hNumber, hAhead, notNext_isDigit hNext⟩
      right
      refine ⟨?_, run_constantParser_eq_some.mpr
        ⟨n, hRun, hSmall, rfl⟩⟩
      -- A pool would need its mark right after the number.
      apply run_eq_none
      intro e m hPool
      rcases run_poolParser_eq_some.mp hPool with
        ⟨count, sides, m, -, hCount, k, hMark, -⟩
      rw [hRun] at hCount
      cases hCount
      rw [hMark, notNext_cons] at hNext
      exact absurd hNext (by decide)

------------------------------------------------------------
-- Operators
------------------------------------------------------------

theorem mem_space_iff
    {a : Char} :
    (" ".toList.contains a) = true ↔ a = ' ' := by
  have hList : " ".toList = [' '] := by decide
  rw [hList, List.contains_iff_mem, List.mem_singleton]

theorem run_operatorParser_eq_some
    {op : Operator} :
    operatorParser.run c = some (op, r) ↔
      ∃ cs, Joint cs op ∧ c.ahead = cs ++ r.ahead ∧
        NotNext (" ".toList.contains ·) r.ahead := by
  rw [operatorParser]
  simp only [run_seqLeft_eq_some, run_seqRight_eq_some,
    run_signs_eq_some, oneOf, run_repeated_character_eq_some,
    mem_space_iff]
  constructor
  · rintro
      ⟨n, ⟨before, m, ⟨⟨hBefore, hFirst⟩, -⟩, hSign⟩,
        after, ⟨hAfter, hSecond⟩, hNext⟩
    rcases hSign with ⟨rfl, hMark⟩ | ⟨rfl, hMark⟩
    · refine ⟨_, .mk .add hBefore hAfter, ?_, hNext⟩
      rw [hFirst, hMark, hSecond, List.append_assoc]
      rfl
    · refine ⟨_, .mk .subtract hBefore hAfter, ?_, hNext⟩
      rw [hFirst, hMark, hSecond, List.append_assoc]
      rfl
  · rintro ⟨_, ⟨op, hBefore, hAfter⟩, hAhead, hNext⟩
    rename_i before after
    rw [List.append_assoc, List.cons_append] at hAhead
    rcases Cursor.exists_of_ahead_eq_append hAhead with
      ⟨m, hMark⟩
    rcases Cursor.exists_of_ahead_eq_append
        (hMark.trans (List.singleton_append ..).symm) with
      ⟨n, hSecond⟩
    rw [← hSecond] at hMark
    refine
      ⟨n, ⟨before, m, ⟨⟨hBefore, by rw [hAhead, hMark, hSecond]⟩,
        ?_⟩, ?_⟩, after, ⟨hAfter, hSecond⟩, hNext⟩
    · rw [hMark, notNext_cons]
      cases op <;> decide
    · cases op with
      | add => exact Or.inl ⟨rfl, hMark⟩
      | subtract => exact Or.inr ⟨rfl, hMark⟩

/- No spaces are left in front of a term. -/
theorem Term.notNext_space
    {cs : List Char}
    {e : DiceExpression}
    (hTerm : Term cs e)
    (rest : List Char) :
    NotNext (" ".toList.contains ·) (cs ++ rest) := by
  rcases hTerm.exists_digit with ⟨a, digits, rfl, hDigit⟩
  rw [List.cons_append, notNext_cons]
  cases hSpace : " ".toList.contains a with
  | false => rfl
  | true =>
      rw [mem_space_iff.mp hSpace] at hDigit
      cases hDigit

/- Operators are made of spaces and signs. -/
theorem Joint.not_isDigit
    {cs : List Char}
    {op : Operator}
    {a : Char}
    (hJoint : Joint cs op)
    (ha : a ∈ cs) :
    a.isDigit = false := by
  rcases hJoint with ⟨op, hBefore, hAfter⟩
  rcases List.mem_append.mp ha with hMem | hMem
  · rw [hBefore a hMem]
    rfl
  · rcases List.mem_cons.mp hMem with rfl | hMem
    · cases op with
      | add => rfl
      | subtract => rfl
    · rw [hAfter a hMem]
      rfl

/- Neither a number nor a pool goes on with an operator. -/
theorem Joint.notNext
    {cs rest : List Char}
    {op : Operator}
    (hJoint : Joint cs op) :
    NotNext endsTerm (cs ++ rest) := by
  rcases hJoint with ⟨op, hBefore, -⟩
  rename_i before after
  cases before with
  | nil =>
      rw [List.nil_append, List.cons_append, notNext_cons]
      cases op <;> decide
  | cons a before =>
      rw [List.cons_append, List.cons_append, notNext_cons,
        hBefore a (by simp)]
      decide

theorem Tail.notNext
    {cs : List Char}
    {more : List (Operator × DiceExpression)}
    (hTail : Tail cs more) :
    NotNext endsTerm cs := by
  cases hTail with
  | nil => exact notNext_nil endsTerm
  | cons hJoint hTerm hRest => exact hJoint.notNext

------------------------------------------------------------
-- Sums
------------------------------------------------------------

/- What joining keeps holds of a sum if it holds of its terms. -/
theorem joinTerms_of_forall
    {whole part : DiceExpression → Prop}
    {first : DiceExpression}
    {more : List (Operator × DiceExpression)}
    (hJoin : ∀ lhs op rhs,
      whole lhs → part rhs → whole (.compound lhs op rhs))
    (hFirst : whole first)
    (hMore : ∀ x ∈ more, part x.2) :
    whole (joinTerms first more) := by
  induction more generalizing first with
  | nil => exact hFirst
  | cons x more ih =>
      rw [List.forall_mem_cons] at hMore
      exact ih (hJoin first x.1 x.2 hFirst hMore.1) hMore.2

/- An operator and the term that follows it. -/
def moreParser : Parser (Operator × DiceExpression) :=
  (fun op e => (op, e)) <$> operatorParser <*> termParser

theorem run_moreParser_eq_some
    {more : Operator × DiceExpression} :
    moreParser.run c = some (more, r) ↔
      ∃ m, operatorParser.run c = some (more.1, m) ∧
        termParser.run m = some (more.2, r) := by
  rw [moreParser]
  simp only [run_seq_eq_some, run_map_eq_some]
  constructor
  · rintro ⟨_, m, ⟨op, hOp, rfl⟩, e, hTerm, rfl⟩
    exact ⟨m, hOp, hTerm⟩
  · rintro ⟨m, hOp, hTerm⟩
    exact ⟨_, m, ⟨more.1, hOp, rfl⟩, more.2, hTerm, rfl⟩

/- A chain of operators and terms is a written tail. -/
theorem tail_of_chain
    {more : List (Operator × DiceExpression)}
    (hChain : Chain moreParser c more r) :
    ∃ cs, Tail cs more ∧ c.ahead = cs ++ r.ahead := by
  induction hChain with
  | nil => exact ⟨[], .nil, rfl⟩
  | cons hRun hMoves hMore ih =>
      rcases ih with ⟨rest, hRest, hAhead⟩
      rcases run_moreParser_eq_some.mp hRun with
        ⟨m, hOp, hTerm⟩
      rcases run_operatorParser_eq_some.mp hOp with
        ⟨joint, hJoint, hFirst, -⟩
      rcases term_of_run hTerm with ⟨term, hWritten, hSecond⟩
      refine ⟨_, .cons hJoint hWritten hRest, ?_⟩
      rw [hFirst, hSecond, hAhead]
      simp only [List.append_assoc]

/- A written tail that is all there is makes up a chain. -/
theorem chain_of_tail
    {cs : List Char}
    {more : List (Operator × DiceExpression)}
    (hTail : Tail cs more)
    (hAhead : c.ahead = cs) :
    Chain moreParser c more (Cursor.stop prose) := by
  induction hTail generalizing c with
  | nil =>
      rw [Cursor.eq_stop_iff.mpr hAhead]
      exact .nil
  | cons hJoint hTerm hRest ih =>
      rename_i joint term rest op e more
      rcases Cursor.exists_of_ahead_eq_append hAhead with
        ⟨m, hMiddle⟩
      rcases Cursor.exists_of_ahead_eq_append hMiddle with
        ⟨n, hLast⟩
      rw [← hLast] at hMiddle
      have hOp : operatorParser.run c = some (op, m) := by
        rw [run_operatorParser_eq_some]
        refine
          ⟨joint, hJoint, by rw [hAhead, hMiddle, hLast], ?_⟩
        rw [hMiddle]
        exact hTerm.notNext_space _
      have hTermRun : termParser.run m = some (e, n) := by
        refine run_of_term hTerm hMiddle ?_
        rw [hLast]
        exact hRest.notNext
      refine .cons (run_moreParser_eq_some.mpr
        ⟨m, hOp, hTermRun⟩) ?_ (ih hLast)
      have hLe := Cursor.position_eq_add_length hMiddle
      rcases hTerm.exists_digit with ⟨a, digits, rfl, -⟩
      rw [List.length_cons] at hLe
      rcases run_operatorParser_eq_some.mp hOp with
        ⟨read, -, hRead, -⟩
      have hFirst := Cursor.position_eq_add_length hRead
      omega

theorem stuck_moreParser :
    Stuck moreParser (Cursor.stop prose) := by
  intro more r hRun
  exact Nat.le_trans r.position_le (Nat.le_refl _)

theorem run_sumParser_eq_some
    {e : DiceExpression} :
    sumParser.run c = some (e, r) ↔
      ∃ first more m, e = joinTerms first more ∧
        termParser.run c = some (first, m) ∧
        Chain moreParser m more r ∧ Stuck moreParser r := by
  change (joinTerms <$> termParser <*>
    moreParser.repeated).run c = some (e, r) ↔ _
  simp only [run_seq_eq_some, run_map_eq_some,
    run_repeated_eq_some]
  constructor
  · rintro ⟨_, m, ⟨first, hFirst, rfl⟩, more, hMore, rfl⟩
    exact ⟨first, more, m, rfl, hFirst, hMore⟩
  · rintro ⟨first, more, m, rfl, hFirst, hMore⟩
    exact ⟨_, m, ⟨first, hFirst, rfl⟩, more, hMore, rfl⟩

------------------------------------------------------------
-- Expressions
------------------------------------------------------------

theorem run_checkParser_eq_some
    {e : DiceExpression} :
    checkParser.run c = some (e, r) ↔
      ∃ n m, number.run m = some (n, r) ∧
        n.toNat < 0x80000000 ∧
        (e = check (Int32.ofInt (1 * n.toNat)) ∧
            c.ahead = '+' :: m.ahead ∨
          e = check (Int32.ofInt (-1 * n.toNat)) ∧
            c.ahead = '-' :: m.ahead) := by
  rw [checkParser, signedNumber, sign]
  simp only [run_map_eq_some, run_filterMap_eq_some,
    run_seq_eq_some, run_signs_eq_some]
  constructor
  · rintro
      ⟨k, ⟨_, ⟨_, m, ⟨s, hSign, rfl⟩, n, hNumber, rfl⟩,
        hValue⟩, rfl⟩
    dsimp only at hValue
    split at hValue
    · rename_i hSmall
      cases hValue
      refine ⟨n, m, hNumber, hSmall, ?_⟩
      rcases hSign with ⟨rfl, hMark⟩ | ⟨rfl, hMark⟩
      · exact Or.inl ⟨rfl, hMark⟩
      · exact Or.inr ⟨rfl, hMark⟩
    · cases hValue
  · rintro ⟨n, m, hNumber, hSmall, hSign⟩
    rcases hSign with ⟨rfl, hMark⟩ | ⟨rfl, hMark⟩
    · exact
        ⟨_, ⟨(1, n), ⟨_, m, ⟨1, Or.inl ⟨rfl, hMark⟩, rfl⟩,
          n, hNumber, rfl⟩, if_pos hSmall⟩, rfl⟩
    · exact
        ⟨_, ⟨(-1, n), ⟨_, m, ⟨-1, Or.inr ⟨rfl, hMark⟩, rfl⟩,
          n, hNumber, rfl⟩, if_pos hSmall⟩, rfl⟩

/- What is read is the text of an expression. -/
theorem written_of_run
    {e : DiceExpression}
    (hRun : parser.run c = some (e, r)) :
    ∃ cs, Written cs e ∧ c.ahead = cs ++ r.ahead := by
  rcases run_orElse_eq_some.mp hRun with hSum | ⟨-, hCheck⟩
  · rcases run_sumParser_eq_some.mp hSum with
      ⟨first, more, m, rfl, hFirst, hMore, -⟩
    rcases term_of_run hFirst with ⟨term, hTerm, hAhead⟩
    rcases tail_of_chain hMore with ⟨rest, hTail, hRest⟩
    refine ⟨term ++ rest, .sum hTerm hTail, ?_⟩
    rw [hAhead, hRest, List.append_assoc]
  · rcases run_checkParser_eq_some.mp hCheck with
      ⟨n, m, hNumber, hSmall, hSign⟩
    rcases run_number_eq_some.mp hNumber with
      ⟨digits, hDigits, hAhead, -⟩
    rcases hSign with ⟨rfl, hMark⟩ | ⟨rfl, hMark⟩
    · refine ⟨'+' :: digits, .bonus hDigits hSmall, ?_⟩
      rw [hMark, hAhead, List.cons_append]
    · refine ⟨'-' :: digits, .penalty hDigits hSmall, ?_⟩
      rw [hMark, hAhead, List.cons_append]

/- A sign is not the beginning of a term. -/
theorem run_sumParser_eq_none
    {a : Char}
    {cs : List Char}
    (hAhead : c.ahead = a :: cs)
    (hDigit : a.isDigit = false) :
    sumParser.run c = none := by
  apply run_eq_none
  intro e r hSum
  rcases run_sumParser_eq_some.mp hSum with
    ⟨first, more, m, -, hFirst, -⟩
  rcases exists_digit_of_run_termParser hFirst with
    ⟨b, rest, hNext, hOther⟩
  rw [hAhead, List.cons.injEq] at hNext
  rw [← hNext.1, hDigit] at hOther
  cases hOther

/- The text of an expression alone is read to its end. -/
theorem run_of_written
    {cs : List Char}
    {e : DiceExpression}
    (hWritten : Written cs e)
    (hAhead : c.ahead = cs) :
    parser.run c = some (e, Cursor.stop prose) := by
  rw [parser, run_orElse_eq_some]
  cases hWritten with
  | sum hFirst hMore =>
      rename_i term rest first more
      rcases Cursor.exists_of_ahead_eq_append hAhead with
        ⟨m, hRest⟩
      left
      rw [run_sumParser_eq_some]
      refine ⟨first, more, m, rfl, ?_,
        chain_of_tail hMore hRest, stuck_moreParser⟩
      refine run_of_term hFirst (by rw [hAhead, hRest]) ?_
      rw [hRest]
      exact hMore.notNext
  | bonus hNumber hSmall =>
      rename_i digits n
      rcases Cursor.exists_of_ahead_eq_append
          (hAhead.trans (List.singleton_append ..).symm) with
        ⟨m, hMark⟩
      right
      refine ⟨run_sumParser_eq_none hAhead (by decide), ?_⟩
      rw [run_checkParser_eq_some]
      refine ⟨n, m, ?_, hSmall, Or.inl ⟨rfl, by rw [hAhead, hMark]⟩⟩
      rw [run_number_eq_some]
      exact ⟨digits, hNumber, by simp [hMark], by simp⟩
  | penalty hNumber hSmall =>
      rename_i digits n
      rcases Cursor.exists_of_ahead_eq_append
          (hAhead.trans (List.singleton_append ..).symm) with
        ⟨m, hMark⟩
      right
      refine ⟨run_sumParser_eq_none hAhead (by decide), ?_⟩
      rw [run_checkParser_eq_some]
      refine ⟨n, m, ?_, hSmall, Or.inr ⟨rfl, by rw [hAhead, hMark]⟩⟩
      rw [run_number_eq_some]
      exact ⟨digits, hNumber, by simp [hMark], by simp⟩

/- The text of an expression is not empty. -/
theorem Written.ne_nil
    {cs : List Char}
    {e : DiceExpression}
    (hWritten : Written cs e) :
    cs ≠ [] := by
  cases hWritten with
  | sum hFirst hMore =>
      rcases hFirst.exists_digit with ⟨a, rest, rfl, -⟩
      exact List.append_ne_nil_of_left_ne_nil
        (List.cons_ne_nil a rest) _
  | bonus hNumber hSmall => exact List.cons_ne_nil _ _
  | penalty hNumber hSmall => exact List.cons_ne_nil _ _

------------------------------------------------------------
-- Rolls in a Text
------------------------------------------------------------

theorem lt_of_run
    {e : DiceExpression}
    (hRun : rolled.run c = some (e, r)) :
    c.position < r.position := by
  rcases written_of_run (run_filter_eq_some.mp hRun).1 with
    ⟨cs, hWritten, hAhead⟩
  exact Cursor.position_lt_of_ahead_eq hAhead hWritten.ne_nil

/- A roll that is found is read again from what it covers. -/
theorem parse?_text_of_mem_allIn
    {a : Located DiceExpression}
    (hMem : a ∈ allIn prose) :
    parser.parse?
        (Prose.ofString (a.span.text prose.toString)) =
      some (a.value, "") := by
  rcases readAt_of_mem_allIn hMem with ⟨c, r, hRun, hSpan⟩
  rcases written_of_run (run_filter_eq_some.mp hRun).1 with
    ⟨cs, hWritten, hAhead⟩
  have hText : a.span.text prose.toString = String.ofList cs := by
    rw [hSpan, Cursor.text_between hAhead]
  have hStart :
      (Cursor.start (Prose.ofString
        (a.span.text prose.toString))).ahead = cs := by
    rw [Cursor.ahead_start, Prose.ofString, hText,
      String.toList_ofList]
  rw [parse?, run_of_written hWritten hStart]
  exact congrArg (fun left => some (a.value, left))
    Cursor.rest_stop

end CreatureProse.DiceExpression
