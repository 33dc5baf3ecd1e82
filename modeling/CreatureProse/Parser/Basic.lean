import CreatureProse.Prose.Cursor
import CreatureProse.Span

/-
  This file defines parsers and the ways of putting them in
  sequence and choosing between them. A parser is given a
  position in a text and answers with a value and the position
  after what it has read, or not at all. It changes nothing, so
  another parser can always be tried from the same position.

  Key definitions include:
    * `Parser`
    * `Parser.filterMap`
    * `Parser.optional`
    * `Parser.located`
    * `Parser.padded`
    * `Parser.firstOf`
    * `Parser.parse?`
-/

namespace CreatureProse

/- A reader of values of one type. -/
structure Parser (α : Type) where
  run : {prose : Prose} → Cursor prose → Option (α × Cursor prose)

namespace Parser

variable {α β γ : Type}

------------------------------------------------------------
-- Running
------------------------------------------------------------

/-
  Read from the start of a text, giving the value and the text
  that was left over.
-/
def parse?
    (p : Parser α)
    (prose : Prose) : Option (α × String) :=
  (p.run (Cursor.start prose)).map fun (a, c) => (a, c.rest)

/- Read from the start of a text and drop what is left over. -/
def value?
    (p : Parser α)
    (prose : Prose) : Option α :=
  (p.run (Cursor.start prose)).map Prod.fst

------------------------------------------------------------
-- Sequence
------------------------------------------------------------

/- Read nothing and give a value. -/
protected def pure (a : α) : Parser α where
  run c := some (a, c)

/- Change the value that is read. -/
protected def map
    (f : α → β)
    (p : Parser α) : Parser β where
  run c := (p.run c).map fun (a, rest) => (f a, rest)

/- Read with one parser and then with another. -/
protected def seq
    (p : Parser (α → β))
    (q : Unit → Parser α) : Parser β where
  run c :=
    match p.run c with
    | none => none
    | some (f, middle) =>
      match (q ()).run middle with
      | none => none
      | some (a, rest) => some (f a, rest)

instance : Applicative Parser where
  pure := Parser.pure
  map := Parser.map
  seq := Parser.seq

/- Change the value that is read, or refuse it. -/
def filterMap
    (f : α → Option β)
    (p : Parser α) : Parser β where
  run c :=
    match p.run c with
    | none => none
    | some (a, rest) => (f a).map fun b => (b, rest)

/- Refuse the values that do not have a property. -/
def filter
    (keep : α → Bool)
    (p : Parser α) : Parser α :=
  p.filterMap fun a => if keep a then some a else none

/- Give the same value whatever is read. -/
def as
    (p : Parser α)
    (b : β) : Parser β :=
  (fun _ => b) <$> p

------------------------------------------------------------
-- Choice
------------------------------------------------------------

/- Read nothing at all. -/
protected def failure : Parser α where
  run _ := none

/- Read with one parser, or else with another. -/
protected def orElse
    (p : Parser α)
    (q : Unit → Parser α) : Parser α where
  run c :=
    match p.run c with
    | some reply => some reply
    | none => (q ()).run c

instance : Alternative Parser where
  failure := Parser.failure
  orElse := Parser.orElse

/- Read with the first parser that can. -/
def firstOf : List (Parser α) → Parser α
| [] => Parser.failure
| p :: ps => p <|> firstOf ps

/- Read if possible. Nothing is skipped otherwise. -/
protected def optional (p : Parser α) : Parser (Option α) where
  run c :=
    match p.run c with
    | some (a, rest) => some (some a, rest)
    | none => some (none, c)

/- Read with optional padding on either side. -/
def padded
    (p : Parser α)
    (padding : Parser β) : Parser α :=
  padding.optional *> p <* padding.optional

------------------------------------------------------------
-- Positions
------------------------------------------------------------

/- Give the value together with the span that was read. -/
def located (p : Parser α) : Parser (Located α) where
  run c :=
    match p.run c with
    | none => none
    | some (a, rest) =>
      some (⟨a, ⟨c.position, rest.position⟩⟩, rest)

/- Read nothing, at the end of the text only. -/
def atEnd : Parser Unit where
  run c := if c.atEnd then some ((), c) else none

/- Read all that is left. -/
def rest : Parser String where
  run {prose} c := some (c.rest, Cursor.stop prose)

end Parser

end CreatureProse
