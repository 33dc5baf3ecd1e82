import CreatureProse.Proofs.Parser.Character
import CreatureProse.Proofs.Parser.Scan

/-
  Plans of parsers: how a parser is put together from the
  parsers of characters and texts by sequence, choice, repetition
  and search, with any functions in between. Whatever its plan, a
  parser only moves forward inside the text.

  Main declarations:
    * `Shift`
    * `Plan`
    * `Plan.parser`
    * `Plan.SpanBlind`
    * `Plan.moves_forward`
-/

namespace CreatureProse

------------------------------------------------------------
-- Values With Spans
------------------------------------------------------------

/-
  Values whose spans can be moved to the right. A type of values
  without spans has the shift that changes nothing, so there is
  one for every type.
-/
class Shift (α : Type) where
  shifted : α → Nat → α

namespace Shift

variable {α β : Type} [Shift α] [Shift β]

/- The shift of values that hold no spans. -/
@[reducible]
def fixed (α : Type) : Shift α where
  shifted a _ := a

instance : Shift Unit := fixed Unit

instance : Shift Char := fixed Char

instance : Shift String := fixed String

instance : Shift UInt32 := fixed UInt32

instance : Shift Int32 := fixed Int32

instance : Shift Int := fixed Int

instance : Shift Span where
  shifted := Span.shifted

instance : Shift (Located α) where
  shifted a offset :=
    ⟨shifted a.value offset, a.span.shifted offset⟩

instance : Shift (α × β) where
  shifted a offset := (shifted a.1 offset, shifted a.2 offset)

instance : Shift (Option α) where
  shifted a? offset := a?.map fun a => shifted a offset

instance : Shift (List α) where
  shifted as offset := as.map fun a => shifted a offset

end Shift

namespace Parser

------------------------------------------------------------
-- Plans
------------------------------------------------------------

/- How a parser of values of a type is put together. -/
inductive Plan : (α : Type) → [Shift α] → Type 1 where
| character (accept : Char → Bool) : Plan Char
| literal (expected : String) : Plan String
| wordStart : Plan Unit
| wordEnd : Plan Unit
| rest : Plan String
| atEnd : Plan Unit
| nothing : Plan Unit
| never {α : Type} [Shift α] : Plan α
| zip {α β : Type} [Shift α] [Shift β]
    (p : Plan α) (q : Plan β) : Plan (α × β)
| or {α : Type} [Shift α] (p q : Plan α) : Plan α
| optional {α : Type} [Shift α] (p : Plan α) : Plan (Option α)
| map {α β : Type} [Shift α] [Shift β]
    (f : α → β) (p : Plan α) : Plan β
| filterMap {α β : Type} [Shift α] [Shift β]
    (f : α → Option β) (p : Plan α) : Plan β
| repeated {α : Type} [Shift α] (p : Plan α) : Plan (List α)
| separated {α β γ : Type} [Shift α] [Shift β] [Shift γ]
    (element : Plan α) (separator : Plan β)
    (terminator : Plan γ) : Plan (List α)
| seek {α : Type} [Shift α] (p : Plan α) : Plan (String × α)
| located {α : Type} [Shift α] (p : Plan α) : Plan (Located α)

namespace Plan

variable
  {α β γ : Type}
  [Shift α]
  [Shift β]
  [Shift γ]

/- The parser that is put together in this way. -/
def parser : {α : Type} → [Shift α] → Plan α → Parser α
| _, _, character accept => Parser.character accept
| _, _, literal expected => Parser.literal expected
| _, _, wordStart => Parser.wordStart
| _, _, wordEnd => Parser.wordEnd
| _, _, rest => Parser.rest
| _, _, atEnd => Parser.atEnd
| _, _, nothing => pure ()
| _, _, never => failure
| _, _, zip p q => (fun a b => (a, b)) <$> p.parser <*> q.parser
| _, _, or p q => p.parser <|> q.parser
| _, _, optional p => p.parser.optional
| _, _, map f p => f <$> p.parser
| _, _, filterMap f p => p.parser.filterMap f
| _, _, repeated p => p.parser.repeated
| _, _, separated element separator terminator =>
  Parser.separated element.parser separator.parser
    terminator.parser
| _, _, seek p => p.parser.seek
| _, _, located p => p.parser.located

/-
  The functions of a plan do not look at spans: to move the
  spans before a function is applied or afterwards is the same.
-/
def SpanBlind : {α : Type} → [Shift α] → Plan α → Prop
| _, _, zip p q => p.SpanBlind ∧ q.SpanBlind
| _, _, or p q => p.SpanBlind ∧ q.SpanBlind
| _, _, optional p => p.SpanBlind
| _, _, map f p =>
  (∀ a offset,
      f (Shift.shifted a offset) = Shift.shifted (f a) offset) ∧
    p.SpanBlind
| _, _, filterMap f p =>
  (∀ a offset,
      f (Shift.shifted a offset) =
        Shift.shifted (f a) offset) ∧
    p.SpanBlind
| _, _, repeated p => p.SpanBlind
| _, _, separated element separator terminator =>
  element.SpanBlind ∧ separator.SpanBlind ∧
    terminator.SpanBlind
| _, _, seek p => p.SpanBlind
| _, _, located p => p.SpanBlind
| _, _, _ => True

------------------------------------------------------------
-- Further Ways of Putting Parsers Together
------------------------------------------------------------

/- The first of two parts. -/
def seqLeft (p : Plan α) (q : Plan β) : Plan α :=
  map Prod.fst (zip p q)

/- The second of two parts. -/
def seqRight (p : Plan α) (q : Plan β) : Plan β :=
  map Prod.snd (zip p q)

/- A part with optional padding on either side. -/
def padded (p : Plan α) (padding : Plan β) : Plan α :=
  seqLeft (seqRight padding.optional p) padding.optional

/- The first of several plans that can be followed. -/
def firstOf : List (Plan α) → Plan α
| [] => never
| p :: ps => or p (firstOf ps)

/- Only the values with a property. -/
def filter (keep : α → Bool) (p : Plan α) : Plan α :=
  filterMap (fun a => if keep a then some a else none) p

/- The same value whatever is read. -/
def as (p : Plan α) (b : β) : Plan β :=
  map (fun _ => b) p

/- One or more elements. -/
def repeated1 (p : Plan α) : Plan (List α) :=
  filter (fun found => !found.isEmpty) (repeated p)

/- The first place ahead, without the text before it. -/
def ahead (p : Plan α) : Plan α :=
  map Prod.snd (seek p)

/- The value and, as a pair with it, the span that was read. -/
def ranged (p : Plan α) : Plan (α × Span) :=
  map (fun a => (a.value, a.span)) (located p)

section

variable {p : Plan α} {q : Plan β}

@[simp] theorem parser_seqLeft :
    (seqLeft p q).parser = p.parser <* q.parser := by
  apply Parser.ext
  intro prose c
  change (Prod.fst <$> ((fun a b => (a, b)) <$> p.parser
    <*> q.parser)).run c =
      (Function.const β <$> p.parser <*> q.parser).run c
  apply Option.ext
  rintro ⟨a, r⟩
  simp only [run_map_eq_some, run_seq_eq_some]
  constructor
  · rintro ⟨_, ⟨_, m, ⟨a, hFirst, rfl⟩, b, hSecond, rfl⟩, rfl⟩
    exact ⟨_, m, ⟨a, hFirst, rfl⟩, b, hSecond, rfl⟩
  · rintro ⟨_, m, ⟨a, hFirst, rfl⟩, b, hSecond, rfl⟩
    exact
      ⟨_, ⟨_, m, ⟨a, hFirst, rfl⟩, b, hSecond, rfl⟩, rfl⟩

@[simp] theorem parser_seqRight :
    (seqRight p q).parser = p.parser *> q.parser := by
  apply Parser.ext
  intro prose c
  change (Prod.snd <$> ((fun a b => (a, b)) <$> p.parser
    <*> q.parser)).run c =
      (Function.const α id <$> p.parser <*> q.parser).run c
  apply Option.ext
  rintro ⟨b, r⟩
  simp only [run_map_eq_some, run_seq_eq_some]
  constructor
  · rintro ⟨_, ⟨_, m, ⟨a, hFirst, rfl⟩, b, hSecond, rfl⟩, rfl⟩
    exact ⟨_, m, ⟨a, hFirst, rfl⟩, b, hSecond, rfl⟩
  · rintro ⟨_, m, ⟨a, hFirst, rfl⟩, b, hSecond, rfl⟩
    exact
      ⟨_, ⟨_, m, ⟨a, hFirst, rfl⟩, b, hSecond, rfl⟩, rfl⟩

@[simp] theorem parser_padded :
    (p.padded q).parser = p.parser.padded q.parser := by
  simp only [padded, parser_seqLeft, parser_seqRight]
  rfl

@[simp] theorem parser_firstOf
    (ps : List (Plan α)) :
    (firstOf ps).parser = Parser.firstOf (ps.map parser) := by
  induction ps with
  | nil => rfl
  | cons p ps ih =>
      change (p.parser <|> (firstOf ps).parser) = _
      rw [ih]
      rfl

@[simp] theorem parser_filter
    (keep : α → Bool) :
    (p.filter keep).parser = p.parser.filter keep := rfl

@[simp] theorem parser_as
    (b : β) :
    (p.as b).parser = p.parser.as b := rfl

@[simp] theorem parser_repeated1 :
    p.repeated1.parser = p.parser.repeated1 := rfl

@[simp] theorem parser_ahead :
    p.ahead.parser = p.parser.ahead := rfl

end

------------------------------------------------------------
-- Numbers, Words and Blanks
------------------------------------------------------------

/- The given character. -/
def char (expected : Char) : Plan Char :=
  character (· == expected)

/- One of the characters of a text. -/
def oneOf (set : String) : Plan Char :=
  character set.toList.contains

/- The characters of a list as a text. -/
def textOf (p : Plan (List Char)) : Plan String :=
  map String.ofList p

/- A number that fits into 32 bits. -/
def number : Plan UInt32 :=
  filterMap Text.unsigned32?
    (character Char.isDigit).repeated1.textOf

/- A number with its sign in front. -/
def signedNumber : Plan Int32 :=
  filterMap
    (fun (s, n) =>
      if n.toNat < 0x80000000 then
        some (Int32.ofInt (s * n.toNat))
      else
        none)
    (zip
      (or ((char '+').as (1 : Int)) ((char '-').as (-1 : Int)))
      number)

/- A word: letters, numbers and apostrophes. -/
def word : Plan String :=
  (character fun c =>
    Text.isAlphanumeric c || isApostrophe c).repeated1.textOf

/- One or more spaces and tabs. -/
def spaces : Plan String :=
  (oneOf " \t").repeated1.textOf

/- One or more line breaks. -/
def lineBreaks : Plan String :=
  (oneOf "\r\n").repeated1.textOf

/- One or more spaces, tabs and line breaks. -/
def blanks : Plan String :=
  (oneOf " \t\r\n").repeated1.textOf

/- The given text where it is not part of a longer word. -/
def wholeWord (expected : String) : Plan String :=
  seqLeft (seqRight wordStart (literal expected)) wordEnd

/- The text between an opening and the next closing bracket. -/
def bracketed : Plan String :=
  seqLeft
    (seqRight (char '(')
      (character (· != ')')).repeated.textOf)
    (char ')')

@[simp] theorem parser_number :
    number.parser = Parser.number := rfl

@[simp] theorem parser_signedNumber :
    signedNumber.parser = Parser.signedNumber := rfl

@[simp] theorem parser_word :
    word.parser = Parser.word := rfl

@[simp] theorem parser_spaces :
    spaces.parser = Parser.spaces := rfl

@[simp] theorem parser_lineBreaks :
    lineBreaks.parser = Parser.lineBreaks := rfl

@[simp] theorem parser_blanks :
    blanks.parser = Parser.blanks := rfl

@[simp] theorem parser_wholeWord
    (expected : String) :
    (wholeWord expected).parser = Parser.wholeWord expected := by
  simp only [wholeWord, parser_seqLeft, parser_seqRight]
  rfl

@[simp] theorem parser_bracketed :
    bracketed.parser = Parser.bracketed := by
  simp only [bracketed, parser_seqLeft, parser_seqRight]
  rfl

------------------------------------------------------------
-- Moving Forward
------------------------------------------------------------

/- A parser put together by a plan never moves back. -/
instance forward
    {α : Type}
    [Shift α]
    (p : Plan α) :
    Forward p.parser := by
  induction p with
  | character accept =>
      exact inferInstanceAs (Forward (Parser.character accept))
  | literal expected =>
      exact inferInstanceAs (Forward (Parser.literal expected))
  | wordStart =>
      exact inferInstanceAs (Forward Parser.wordStart)
  | wordEnd =>
      exact inferInstanceAs (Forward Parser.wordEnd)
  | rest => exact inferInstanceAs (Forward Parser.rest)
  | atEnd => exact inferInstanceAs (Forward Parser.atEnd)
  | nothing => exact inferInstanceAs (Forward (pure ()))
  | never => exact inferInstanceAs (Forward failure)
  | zip p q hp hq =>
      exact inferInstanceAs
        (Forward ((fun a b => (a, b)) <$> p.parser <*> q.parser))
  | or p q hp hq =>
      exact inferInstanceAs (Forward (p.parser <|> q.parser))
  | optional p hp =>
      exact inferInstanceAs (Forward p.parser.optional)
  | map f p hp => exact inferInstanceAs (Forward (f <$> p.parser))
  | filterMap f p hp =>
      exact inferInstanceAs (Forward (p.parser.filterMap f))
  | repeated p hp =>
      exact inferInstanceAs (Forward p.parser.repeated)
  | separated element separator terminator hp hq ht =>
      exact inferInstanceAs
        (Forward (Parser.separated element.parser
          separator.parser terminator.parser))
  | seek p hp => exact inferInstanceAs (Forward p.parser.seek)
  | located p hp =>
      exact inferInstanceAs (Forward p.parser.located)

/-
  What holds of a parser that answers at `c` with a value and
  the position `r`: it has read the characters from `c` up to
  `r`, and those from `r` on are left.
-/
structure Advances
    (p : Plan α)
    {prose : Prose}
    (c : Cursor prose)
    (a : α)
    (r : Cursor prose) : Prop where
  le : c.position ≤ r.position
  le_size : r.position ≤ prose.size
  run_ranged :
    p.ranged.parser.run c =
      some ((a, ⟨c.position, r.position⟩), r)
  run_located :
    p.located.parser.run c =
      some (⟨a, ⟨c.position, r.position⟩⟩, r)
  rest_eq : r.rest = String.ofList (prose.toList.drop r.position)

/-
  Wherever a parser put together by a plan answers, it answers
  with the same or a later position of the text, its span is what
  lies between the two, and what is left over of a text is what
  lies ahead of the position.
-/
theorem moves_forward (p : Plan α) :
    (∀ {prose : Prose} {c r : Cursor prose} {a : α},
      p.parser.run c = some (a, r) → p.Advances c a r) ∧
    ∀ (text : String) (a : α) (left : String),
      p.parser.parse? (Prose.ofString text) = some (a, left) ↔
        ∃ r : Cursor (Prose.ofString text),
          p.parser.run (Cursor.start _) = some (a, r) ∧
            left =
              String.ofList (text.toList.drop r.position) := by
  constructor
  · intro prose c r a hRun
    have hLocated :
        p.located.parser.run c =
          some (⟨a, ⟨c.position, r.position⟩⟩, r) :=
      run_located_eq_some.mpr ⟨hRun, rfl⟩
    exact
      { le := Forward.le hRun
        le_size := r.position_le
        run_ranged := run_map_eq_some.mpr ⟨_, hLocated, rfl⟩
        run_located := hLocated
        rest_eq := r.rest_eq }
  · intro text a left
    rw [parse?, Option.map_eq_some_iff]
    constructor
    · rintro ⟨⟨b, r⟩, hRun, hEq⟩
      cases hEq
      exact ⟨r, hRun, r.rest_eq⟩
    · rintro ⟨r, hRun, rfl⟩
      exact ⟨(a, r), hRun, congrArg (Prod.mk a) r.rest_eq⟩

/- Numbers with commas between them, each with its place. -/
def locatedNumbers : Plan (List (Located UInt32)) :=
  separated (located number) (literal ",") nothing

/- A comma that no number follows is left over. -/
theorem moves_forward_locatedNumbers :
    ∃ r : Cursor (Prose.ofString "x 1,2,"),
      locatedNumbers.parser.run ⟨2, by decide⟩ =
          some ([⟨1, ⟨2, 3⟩⟩, ⟨2, ⟨4, 5⟩⟩], r) ∧
        r.position = 5 ∧
        locatedNumbers.Advances ⟨2, by decide⟩
          [⟨1, ⟨2, 3⟩⟩, ⟨2, ⟨4, 5⟩⟩] r := by
  have hRun :
      locatedNumbers.parser.run
          (⟨2, by decide⟩ : Cursor (Prose.ofString "x 1,2,")) =
        some ([⟨1, ⟨2, 3⟩⟩, ⟨2, ⟨4, 5⟩⟩], ⟨5, by decide⟩) := by
    decide +kernel
  exact ⟨_, hRun, rfl, (moves_forward locatedNumbers).1 hRun⟩

end Plan

end Parser

end CreatureProse
