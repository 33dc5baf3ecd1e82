import CreatureProse.Proofs.Parser.Word
import CreatureProse.StatLine.ModifierList
import Mathlib.Data.List.Basic

/-
  What is read of a list of modifiers: the entries at the front
  of the text, one after the other, up to where no entry begins.
  The commas between them may be missing, and what is left of
  the text may be anything. A list that is written well is read
  to its end.

  Main declarations:
    * `ModifierList.Entry`
    * `ModifierList.run_entryParser_eq_some`
    * `ModifierList.Entries`
    * `ModifierList.ofString_eq_iff`
    * `ModifierList.Line`
    * `ModifierList.ofString_writtenEntries`
    * `ModifierList.ofString_reads_front`
-/

namespace CreatureProse.ModifierList

open CreatureProse.Parser

variable {prose : Prose} {c r : Cursor prose}

------------------------------------------------------------
-- Signed Numbers
------------------------------------------------------------

/- A sign, and what it multiplies a number by. -/
inductive Sign : Char → Int → Prop where
| plus : Sign '+' 1
| minus : Sign '-' (-1)

/- A sign and the digits of a number of at most 31 bits. -/
inductive Signed : List Char → Int32 → Prop where
| mk
    {a : Char}
    {factor : Int}
    {digits : List Char}
    {n : UInt32}
    {m : Int32}
    (hSign : Sign a factor)
    (hNumber : Numeral digits n)
    (hFits : n.toNat < 2 ^ 31)
    (hValue : m.toInt = factor * n.toNat) :
    Signed (a :: digits) m

theorem run_sign_eq_some
    {factor : Int} :
    sign.run c = some (factor, r) ↔
      ∃ a, Sign a factor ∧ c.ahead = a :: r.ahead := by
  rw [sign, run_signs_eq_some]
  constructor
  · rintro (⟨rfl, hAhead⟩ | ⟨rfl, hAhead⟩)
    · exact ⟨'+', .plus, hAhead⟩
    · exact ⟨'-', .minus, hAhead⟩
  · rintro ⟨_, hSign, hAhead⟩
    cases hSign with
    | plus => exact Or.inl ⟨rfl, hAhead⟩
    | minus => exact Or.inr ⟨rfl, hAhead⟩

/- A number of 31 bits fits with either sign. -/
theorem Sign.ofInt_eq_iff
    {a : Char}
    {factor : Int}
    {n : UInt32}
    {m : Int32}
    (hSign : Sign a factor)
    (hFits : n.toNat < 2 ^ 31) :
    Int32.ofInt (factor * n.toNat) = m ↔
      m.toInt = factor * n.toNat := by
  have hRange :
      -2 ^ 31 ≤ factor * n.toNat ∧ factor * n.toNat < 2 ^ 31 := by
    cases hSign with
    | plus => omega
    | minus => omega
  have hInt := Int32.toInt_ofInt_of_le hRange.1 hRange.2
  constructor
  · rintro rfl
    exact hInt
  · intro hValue
    rw [← Int32.toInt_inj, hInt, hValue]

theorem run_signedNumber_eq_some
    {m : Int32} :
    signedNumber.run c = some (m, r) ↔
      ∃ cs, Signed cs m ∧ c.ahead = cs ++ r.ahead ∧
        NotNext Char.isDigit r.ahead := by
  simp only [signedNumber, run_filterMap_eq_some,
    run_seq_eq_some, run_map_eq_some, run_sign_eq_some,
    run_number_eq_some]
  constructor
  · rintro
      ⟨_, ⟨_, d, ⟨factor, ⟨a, hSign, hFirst⟩, rfl⟩, n,
        ⟨digits, hNumber, hSecond, hNext⟩, rfl⟩, hValue⟩
    rcases Option.ite_none_right_eq_some.mp hValue with
      ⟨hFits, hSame⟩
    rw [Option.some.injEq, hSign.ofInt_eq_iff hFits] at hSame
    refine ⟨_, .mk hSign hNumber hFits hSame, ?_, hNext⟩
    rw [hFirst, hSecond, List.cons_append]
  · rintro ⟨_, hSigned, hAhead, hNext⟩
    cases hSigned with
    | @mk a factor digits n m hSign hNumber hFits hValue =>
        rw [List.cons_append] at hAhead
        rcases Cursor.exists_of_ahead_eq_cons hAhead with ⟨d, hD⟩
        rw [← hD] at hAhead
        refine
          ⟨_, ⟨_, d, ⟨factor, ⟨a, hSign, hAhead⟩, rfl⟩, n,
            ⟨digits, hNumber, hD, hNext⟩, rfl⟩, ?_⟩
        exact Option.ite_none_right_eq_some.mpr
          ⟨hFits, congrArg some ((hSign.ofInt_eq_iff hFits).mpr
            hValue)⟩

/- What is next with a sign is no space. -/
theorem Signed.notNext
    {cs rest : List Char}
    {m : Int32}
    (hSigned : Signed cs m) :
    NotNext isGap (cs ++ rest) := by
  cases hSigned with
  | mk hSign hNumber hFits hValue =>
      cases hSign with
      | plus => exact notNext_cons.mpr (by decide)
      | minus => exact notNext_cons.mpr (by decide)

------------------------------------------------------------
-- Entries
------------------------------------------------------------

/- A word, and the spaces or tabs behind it. -/
inductive Label : List Char → String → Prop where
| mk
    {label : String}
    {gap : List Char}
    (hNe : label.toList ≠ [])
    (hLetters : ∀ a ∈ label.toList, isWordLetter a = true)
    (hGapNe : gap ≠ [])
    (hGap : ∀ a ∈ gap, isGap a = true) :
    Label (label.toList ++ gap) label

/- A label and a signed number. -/
inductive Entry : List Char → String × Int32 → Prop where
| mk
    {front cs : List Char}
    {label : String}
    {m : Int32}
    (hLabel : Label front label)
    (hSigned : Signed cs m) :
    Entry (front ++ cs) (label, m)

/-
  What ends an entry: a comma and a space, or nothing where
  these are not next.
-/
inductive Ending : List Char → List Char → Prop where
| comma
    {rest : List Char} :
    Ending ", ".toList rest
| nothing
    {rest : List Char}
    (hDigit : NotNext Char.isDigit rest)
    (hComma : ", ".toList.isPrefixOf rest = false) :
    Ending [] rest

theorem Label.ne_nil
    {cs : List Char}
    {label : String}
    (hLabel : Label cs label) :
    cs ≠ [] := by
  cases hLabel with
  | mk hNe hLetters hGapNe hGap =>
      exact List.append_ne_nil_of_left_ne_nil hNe _

theorem Entry.ne_nil
    {cs : List Char}
    {e : String × Int32}
    (hEntry : Entry cs e) :
    cs ≠ [] := by
  cases hEntry with
  | mk hLabel hSigned =>
      exact List.append_ne_nil_of_left_ne_nil hLabel.ne_nil _

theorem Ending.notNext
    {ending rest : List Char}
    (hEnding : Ending ending rest) :
    NotNext Char.isDigit (ending ++ rest) := by
  cases hEnding with
  | comma => exact notNext_cons.mpr (by decide)
  | nothing hDigit hComma => exact hDigit

/- The last character of an entry is a digit. -/
theorem Signed.exists_getLast?
    {cs : List Char}
    {m : Int32}
    (hSigned : Signed cs m) :
    ∃ a ∈ cs.getLast?, a.isDigit = true := by
  cases hSigned with
  | @mk a factor digits n m hSign hNumber hFits hValue =>
      have hLast := List.getLast_mem hNumber.ne_nil
      refine
        ⟨_, ?_, hNumber.isDigit (digits.getLast hNumber.ne_nil) hLast⟩
      rw [List.getLast?_cons_of_ne_nil hNumber.ne_nil]
      exact List.getLast?_eq_some_getLast hNumber.ne_nil

theorem Entry.exists_getLast?
    {cs : List Char}
    {e : String × Int32}
    (hEntry : Entry cs e) :
    ∃ a ∈ cs.getLast?, a.isDigit = true := by
  cases hEntry with
  | mk hLabel hSigned =>
      rcases hSigned.exists_getLast? with ⟨a, hLast, hDigit⟩
      exact
        ⟨a, List.mem_getLast?_append_of_mem_getLast? hLast, hDigit⟩

/- Behind an entry there is always one of the endings. -/
theorem exists_ending
    {rest : List Char}
    (hDigit : NotNext Char.isDigit rest) :
    ∃ ending left, Ending ending left ∧ rest = ending ++ left := by
  cases hComma : ", ".toList.isPrefixOf rest with
  | false => exact ⟨[], rest, .nothing hDigit hComma, rfl⟩
  | true =>
      rcases List.isPrefixOf_iff_prefix.mp hComma with ⟨left, rfl⟩
      exact ⟨_, left, .comma, rfl⟩

/- A label is read up to where something else is next. -/
theorem run_label_eq_some
    {label : String} :
    (word <* spaces).run c = some (label, r) ↔
      ∃ cs, Label cs label ∧ c.ahead = cs ++ r.ahead ∧
        NotNext isGap r.ahead := by
  simp only [run_seqLeft_eq_some, run_word_eq_some,
    run_spaces_eq_some]
  constructor
  · rintro
      ⟨d, ⟨hNe, hLetters, hFirst, -⟩, gap, hGapNe, hGap, hSecond,
        hNext⟩
    refine ⟨_, .mk hNe hLetters hGapNe hGap, ?_, hNext⟩
    rw [hFirst, hSecond, List.append_assoc]
  · rintro ⟨_, hLabel, hAhead, hNext⟩
    cases hLabel with
    | @mk label gap hNe hLetters hGapNe hGap =>
        rw [List.append_assoc] at hAhead
        rcases Cursor.exists_of_ahead_eq_append hAhead with ⟨d, hD⟩
        have hLetter : NotNext isWordLetter d.ahead := by
          rcases List.exists_cons_of_ne_nil hGapNe with
            ⟨a, more, rfl⟩
          rw [hD]
          exact notNext_cons.mpr (isWordLetter_eq_false_of_isGap
            (hGap a (List.mem_cons_self ..)))
        rw [← hD] at hAhead
        refine
          ⟨d, ⟨hNe, hLetters, hAhead, hLetter⟩,
            String.ofList gap, ?_⟩
        rw [String.toList_ofList]
        exact ⟨hGapNe, hGap, hD, hNext⟩

/- The comma of an entry is read if it is there. -/
theorem run_comma_iff :
    (NotNext Char.isDigit c.ahead ∧
        ∃ s?, (literal ", ").optional.run c = some (s?, r)) ↔
      ∃ ending, Ending ending r.ahead ∧
        c.ahead = ending ++ r.ahead := by
  rw [(readsText_literal ", ").run_optional_iff]
  constructor
  · rintro ⟨hDigit, hAhead | ⟨hComma, rfl⟩⟩
    · exact ⟨_, .comma, hAhead⟩
    · exact ⟨[], .nothing hDigit hComma, rfl⟩
  · rintro ⟨ending, hEnding, hAhead⟩
    have hDigit := hEnding.notNext
    rw [← hAhead] at hDigit
    refine ⟨hDigit, ?_⟩
    generalize hRest : r.ahead = rest at hEnding
    cases hEnding with
    | comma =>
        rw [hRest] at hAhead
        exact Or.inl hAhead
    | nothing hNext hComma =>
        have hSame := Cursor.eq_of_ahead_eq hAhead
        exact Or.inr ⟨by rwa [hSame, hRest], hSame⟩

/- An entry and its ending are read where they stand. -/
theorem run_entryParser_eq_some
    {e : String × Int32} :
    entryParser.run c = some (e, r) ↔
      ∃ cs ending, Entry cs e ∧ Ending ending r.ahead ∧
        c.ahead = cs ++ (ending ++ r.ahead) := by
  rw [entryParser, run_seq_eq_some]
  simp only [run_map_eq_some, run_label_eq_some]
  constructor
  · rintro
      ⟨_, k, ⟨label, ⟨front, hLabel, hFirst, -⟩, rfl⟩, m, hRest,
        rfl⟩
    rcases run_seqLeft_eq_some.mp hRest with ⟨x, hModifier, hComma⟩
    rcases run_signedNumber_eq_some.mp hModifier with
      ⟨cs, hSigned, hSecond, hDigit⟩
    rcases run_comma_iff.mp ⟨hDigit, hComma⟩ with
      ⟨ending, hEnding, hLast⟩
    refine ⟨_, ending, .mk hLabel hSigned, hEnding, ?_⟩
    rw [hFirst, hSecond, hLast, List.append_assoc]
  · rintro ⟨_, ending, hEntry, hEnding, hAhead⟩
    cases hEntry with
    | @mk front cs label m hLabel hSigned =>
        rw [List.append_assoc] at hAhead
        rcases Cursor.exists_of_ahead_eq_append hAhead with ⟨k, hK⟩
        rcases Cursor.exists_of_ahead_eq_append hK with ⟨x, hX⟩
        rcases run_comma_iff.mpr ⟨ending, hEnding, hX⟩ with
          ⟨hDigit, hComma⟩
        have hSpace : NotNext isGap k.ahead := by
          rw [hK]
          exact hSigned.notNext
        rw [← hK] at hAhead
        rw [← hX] at hK
        have hModifier : signedNumber.run k = some (m, x) :=
          run_signedNumber_eq_some.mpr ⟨cs, hSigned, hK, hDigit⟩
        exact
          ⟨_, k, ⟨label, ⟨front, hLabel, hAhead, hSpace⟩, rfl⟩, m,
            run_seqLeft_eq_some.mpr ⟨x, hModifier, hComma⟩, rfl⟩

------------------------------------------------------------
-- The Front of a Text
------------------------------------------------------------

/- A text begins with an entry, of which no digits are cut off. -/
def Begins (text : List Char) : Prop :=
  ∃ cs e rest, Entry cs e ∧ NotNext Char.isDigit rest ∧
    text = cs ++ rest

/-
  The entries at the front of a text, each with its ending, and
  what is left of the text where no entry begins.
-/
inductive Entries : List Char → ModifierList → List Char → Prop where
| stop
    {left : List Char}
    (hNone : ¬ Begins left) :
    Entries left [] left
| more
    {cs ending rest left : List Char}
    {e : String × Int32}
    {es : ModifierList}
    (hEntry : Entry cs e)
    (hEnding : Ending ending rest)
    (hMore : Entries rest es left) :
    Entries (cs ++ (ending ++ rest)) (e :: es) left

theorem begins_append
    {cs ending rest : List Char}
    {e : String × Int32}
    (hEntry : Entry cs e)
    (hEnding : Ending ending rest) :
    Begins (cs ++ (ending ++ rest)) :=
  ⟨cs, e, _, hEntry, hEnding.notNext, rfl⟩

/- An entry that is read takes the text on. -/
theorem position_lt_of_run_entryParser
    {e : String × Int32}
    (hRun : entryParser.run c = some (e, r)) :
    c.position < r.position := by
  rcases run_entryParser_eq_some.mp hRun with
    ⟨cs, ending, hEntry, -, hAhead⟩
  rw [← List.append_assoc] at hAhead
  exact Cursor.position_lt_of_ahead_eq hAhead
    (List.append_ne_nil_of_left_ne_nil hEntry.ne_nil ending)

/- The repetition is stuck where no entry begins. -/
theorem stuck_entryParser_iff :
    Stuck entryParser c ↔ ¬ Begins c.ahead := by
  constructor
  · rintro hStuck ⟨cs, e, rest, hEntry, hDigit, hAhead⟩
    rcases exists_ending hDigit with ⟨ending, left, hEnding, rfl⟩
    have hText := hAhead
    rw [← List.append_assoc] at hText
    rcases Cursor.exists_of_ahead_eq_append hText with ⟨r, rfl⟩
    have hRun : entryParser.run c = some (e, r) :=
      run_entryParser_eq_some.mpr
        ⟨cs, ending, hEntry, hEnding, hAhead⟩
    exact absurd (hStuck e r hRun)
      (Nat.not_le_of_lt (position_lt_of_run_entryParser hRun))
  · intro hNone e r hRun
    rcases run_entryParser_eq_some.mp hRun with
      ⟨cs, ending, hEntry, hEnding, hAhead⟩
    rw [hAhead] at hNone
    exact absurd (begins_append hEntry hEnding) hNone

/- A repetition reads the entries at the front of a text. -/
theorem entries_of_chain
    {es : ModifierList}
    (hChain : Chain entryParser c es r)
    (hStuck : Stuck entryParser r) :
    Entries c.ahead es r.ahead := by
  induction hChain with
  | nil => exact .stop (stuck_entryParser_iff.mp hStuck)
  | cons hRun hMoves hMore ih =>
      rcases run_entryParser_eq_some.mp hRun with
        ⟨cs, ending, hEntry, hEnding, hAhead⟩
      rw [hAhead]
      exact .more hEntry hEnding (ih hStuck)

theorem exists_chain_of_entries
    {es : ModifierList}
    {left : List Char}
    (hEntries : Entries c.ahead es left) :
    ∃ r, Chain entryParser c es r ∧ Stuck entryParser r := by
  generalize hText : c.ahead = text at hEntries
  induction hEntries generalizing c with
  | stop hNone =>
      rw [← hText] at hNone
      exact ⟨c, .nil, stuck_entryParser_iff.mpr hNone⟩
  | more hEntry hEnding hMore ih =>
      have hAhead := hText
      rw [← List.append_assoc] at hAhead
      rcases Cursor.exists_of_ahead_eq_append hAhead with ⟨m, rfl⟩
      have hRun := run_entryParser_eq_some.mpr
        ⟨_, _, hEntry, hEnding, hText⟩
      rcases ih rfl with ⟨r, hChain, hStuck⟩
      exact
        ⟨r, .cons hRun (position_lt_of_run_entryParser hRun) hChain,
          hStuck⟩

/- Of every text just the entries at its front are read. -/
theorem ofString_eq_iff
    {s : String}
    {es : ModifierList} :
    ofString s = es ↔ ∃ left, Entries s.toList es left := by
  have hRead
      {bs : ModifierList}
      {m : Cursor (Prose.ofString s)}
      (hChain : Chain entryParser (Cursor.start _) bs m)
      (hStuck : Stuck entryParser m) :
      ofString s = bs := by
    have hRun := run_repeated_eq_some.mpr ⟨hChain, hStuck⟩
    rw [ofString, Parser.value?, parser, hRun]
    rfl
  constructor
  · rintro rfl
    rcases repeatFrom_chain entryParser
        (Cursor.start (Prose.ofString s)) [] with
      ⟨bs, m, -, hChain, hStuck⟩
    rw [hRead hChain hStuck]
    exact ⟨_, entries_of_chain hChain hStuck⟩
  · rintro ⟨left, hEntries⟩
    rcases exists_chain_of_entries
        (c := Cursor.start (Prose.ofString s)) hEntries with
      ⟨m, hChain, hStuck⟩
    exact hRead hChain hStuck

/- There are no entries just where none is at the front. -/
theorem Entries.eq_nil_iff
    {text left : List Char}
    {es : ModifierList}
    (hEntries : Entries text es left) :
    es = [] ↔ ¬ Begins text := by
  cases hEntries with
  | stop hNone => exact iff_of_true rfl hNone
  | more hEntry hEnding hMore =>
      exact iff_of_false (List.cons_ne_nil _ _)
        (not_not_intro (begins_append hEntry hEnding))

/- No list is read just where the text begins with no entry. -/
theorem ofString_eq_nil_iff
    {s : String} :
    ofString s = [] ↔ ¬ Begins s.toList := by
  rcases ofString_eq_iff.mp (Eq.refl (ofString s)) with
    ⟨left, hEntries⟩
  exact hEntries.eq_nil_iff

------------------------------------------------------------
-- Lists That Are Written Well
------------------------------------------------------------

/- Entries with a comma and a space between them. -/
inductive Line : List Char → ModifierList → Prop where
| last
    {cs : List Char}
    {e : String × Int32}
    (hEntry : Entry cs e) :
    Line cs [e]
| more
    {cs rest : List Char}
    {e : String × Int32}
    {es : ModifierList}
    (hEntry : Entry cs e)
    (hMore : Line rest es) :
    Line (cs ++ (", ".toList ++ rest)) (e :: es)

theorem not_begins_nil : ¬ Begins [] := by
  rintro ⟨cs, e, rest, hEntry, -, hNil⟩
  exact hEntry.ne_nil (List.append_eq_nil_iff.mp hNil.symm).1

/- Of a list that is written well nothing is left. -/
theorem Line.entries
    {cs : List Char}
    {es : ModifierList}
    (hLine : Line cs es) :
    Entries cs es [] := by
  induction hLine with
  | @last cs e hEntry =>
      have hEnding : Ending [] [] :=
        .nothing (notNext_nil _) rfl
      have hLast :=
        Entries.more hEntry hEnding (.stop not_begins_nil)
      rwa [List.append_nil, List.append_nil] at hLast
  | more hEntry hMore ih => exact .more hEntry .comma ih

theorem ofString_of_line
    {s : String}
    {es : ModifierList}
    (hLine : Line s.toList es) :
    ofString s = es :=
  ofString_eq_iff.mpr ⟨[], hLine.entries⟩

------------------------------------------------------------
-- Lists Written from Their Entries
------------------------------------------------------------

/- The text of an entry. -/
def writtenEntry (e : String × Int32) : String :=
  e.1 ++ (" " ++ Text.signed e.2.toInt)

/- The text of a list, with a comma and a space between entries. -/
def written (es : ModifierList) : String :=
  ", ".intercalate (es.map writtenEntry)

/-
  An entry can be written if its label is a word and the size of
  its modifier has at most 31 bits.
-/
structure Writable (e : String × Int32) : Prop where
  ne_nil : e.1.toList ≠ []
  letters : ∀ a ∈ e.1.toList, isWordLetter a = true
  fits : e.2.toInt.natAbs < 2 ^ 31

theorem signed_toString
    {m : Int32}
    (hFits : m.toInt.natAbs < 2 ^ 31) :
    Signed (Text.signed m.toInt).toList m := by
  have hSize :
      (UInt32.ofNat m.toInt.natAbs).toNat = m.toInt.natAbs :=
    UInt32.toNat_ofNat_of_lt' (Nat.lt_trans hFits (by decide))
  have hNumber := numeral_toString (.ofNat m.toInt.natAbs)
  rw [hSize] at hNumber
  rw [Text.toList_signed]
  by_cases hNeg : m.toInt < 0
  · rw [if_pos hNeg]
    exact .mk .minus hNumber (by omega) (by omega)
  · rw [if_neg hNeg]
    exact .mk .plus hNumber (by omega) (by omega)

theorem Writable.entry
    {e : String × Int32}
    (hWritable : Writable e) :
    Entry (writtenEntry e).toList e := by
  have hLabel : Label (e.1.toList ++ " ".toList) e.1 :=
    .mk hWritable.ne_nil hWritable.letters (List.cons_ne_nil _ _)
      (List.forall_mem_singleton.mpr (by decide))
  rw [writtenEntry, String.toList_append, String.toList_append,
    ← List.append_assoc]
  exact .mk hLabel (signed_toString hWritable.fits)

theorem line_written
    {e : String × Int32}
    {more : ModifierList}
    (hWritable : ∀ d ∈ e :: more, Writable d) :
    Line (written (e :: more)).toList (e :: more) := by
  induction more generalizing e with
  | nil =>
      exact .last (hWritable e (List.mem_singleton_self e)).entry
  | cons d more ih =>
      rw [List.forall_mem_cons] at hWritable
      have hText :
          written (e :: d :: more) =
            writtenEntry e ++ (", " ++ written (d :: more)) := by
        rw [written, written, List.map_cons, List.map_cons,
          String.intercalate_cons_cons, String.append_assoc]
      rw [hText, String.toList_append, String.toList_append]
      exact .more hWritable.1.entry (ih hWritable.2)

/- Every list that can be written is read again from its text. -/
theorem ofString_writtenEntries
    {es : ModifierList}
    (hWritable : ∀ e ∈ es, Writable e) :
    ofString (written es) = es := by
  cases es with
  | nil => exact ofString_eq_nil_iff.mpr not_begins_nil
  | cons e more => exact ofString_of_line (line_written hWritable)

------------------------------------------------------------
-- All Texts
------------------------------------------------------------

/- The list that is read from a text describes the whole text. -/
def AllOrNothing (s : String) : Prop :=
  ofString s ≠ [] → Line s.toList (ofString s)

theorem allOrNothing_iff
    {s : String} :
    AllOrNothing s ↔
      (Begins s.toList → ∃ es, Line s.toList es) := by
  have hBegins : Begins s.toList ↔ ofString s ≠ [] := by
    rw [ne_eq, ofString_eq_nil_iff, not_not]
  rw [AllOrNothing, hBegins]
  apply imp_congr_right
  intro hSome
  constructor
  · intro hLine
    exact ⟨ofString s, hLine⟩
  · rintro ⟨es, hLine⟩
    rwa [ofString_of_line hLine]

/-
  A text is read as the entries at its front, and as none just
  where it does not begin with one. A list that is written well
  is read as exactly its entries, in their order. So either all
  of a text is described or nothing is read, unless it begins
  with an entry and is no such list.
-/
theorem ofString_reads_front
    (s : String) :
    (∀ es, ofString s = es ↔
        ∃ left, Entries s.toList es left) ∧
      (ofString s = [] ↔ ¬ Begins s.toList) ∧
      (∀ es, Line s.toList es → ofString s = es) ∧
      (AllOrNothing s ↔
        (Begins s.toList → ∃ es, Line s.toList es)) :=
  ⟨fun _ => ofString_eq_iff, ofString_eq_nil_iff,
    fun _ => ofString_of_line, allOrNothing_iff⟩

/-
  A list is read to its end. Commas that are missing change
  nothing, and a text without any entry has none at its front.
-/
theorem ofString_reads_front_saves :
    let saves : ModifierList := [("Dex", 1), ("Cha", -5)]
    Line "Dex +1, Cha -5".toList saves ∧
      ofString "Dex +1, Cha -5" = saves ∧
      (∃ left, Entries "Dex +1Cha -5, or so".toList saves left) ∧
      ¬ Begins "nothing here".toList := by
  intro saves
  have hWritable : ∀ e ∈ saves, Writable e := by
    have hDex : "Dex".toList.all isWordLetter = true := by decide
    have hCha : "Cha".toList.all isWordLetter = true := by decide
    simp only [saves, List.forall_mem_cons]
    exact
      ⟨⟨by decide, List.all_eq_true.mp hDex, by decide⟩,
        ⟨by decide, List.all_eq_true.mp hCha, by decide⟩,
        List.forall_mem_nil _⟩
  have hLine : Line "Dex +1, Cha -5".toList saves :=
    line_written hWritable
  refine
    ⟨hLine,
      (ofString_reads_front "Dex +1, Cha -5").2.2.1 saves hLine,
      ?_, ?_⟩
  · exact ((ofString_reads_front "Dex +1Cha -5, or so").1 saves).mp
      (by decide +kernel)
  · exact (ofString_reads_front "nothing here").2.1.mp
      (by decide +kernel)

/- A list that is written well ends with a digit. -/
theorem Line.exists_getLast?
    {cs : List Char}
    {es : ModifierList}
    (hLine : Line cs es) :
    ∃ a ∈ cs.getLast?, a.isDigit = true := by
  induction hLine with
  | last hEntry => exact hEntry.exists_getLast?
  | more hEntry hMore ih =>
      rcases ih with ⟨a, hLast, hDigit⟩
      rw [← List.append_assoc]
      exact
        ⟨a, List.mem_getLast?_append_of_mem_getLast? hLast, hDigit⟩

/- What follows the first entry may be no entry at all. -/
theorem not_always_allOrNothing : ¬ ∀ s, AllOrNothing s := by
  intro hAll
  have hLine := hAll "Dex +1, nothing here" (by decide +kernel)
  rcases hLine.exists_getLast? with ⟨a, hLast, hDigit⟩
  cases Option.mem_def.mp hLast
  exact absurd hDigit (by decide)

end CreatureProse.ModifierList
