import CreatureProse.Parser.Repeat
import CreatureProse.Text.Decimal
import CreatureProse.Text.Letter

/-
  This file defines the parsers of single characters, fixed
  texts, numbers, words and blanks.

  Key definitions include:
    * `Parser.character`
    * `Parser.literal`
    * `Parser.number`
    * `Parser.signedNumber`
    * `Parser.word`
    * `Parser.wholeWord`
    * `Parser.bracketed`
-/

namespace CreatureProse.Parser

------------------------------------------------------------
-- Characters
------------------------------------------------------------

/- One character of a kind. -/
def character (accept : Char → Bool) : Parser Char where
  run c :=
    match c.next? with
    | none => none
    | some (a, rest) => if accept a then some (a, rest) else none

/- The given character. -/
def char (expected : Char) : Parser Char :=
  character (· == expected)

/- One of the characters of a text. -/
def oneOf (set : String) : Parser Char :=
  character set.toList.contains

/- A decimal digit. -/
def digit : Parser Char :=
  character Char.isDigit

/- The characters of a list as a text. -/
def textOf (p : Parser (List Char)) : Parser String :=
  String.ofList <$> p

/- The texts of a list, joined. -/
def joined
    (separator : String)
    (p : Parser (List String)) : Parser String :=
  separator.intercalate <$> p

/- The given text. -/
def literal (expected : String) : Parser String where
  run c := (c.skip? expected.toList).map fun rest => (expected, rest)

------------------------------------------------------------
-- Numbers
------------------------------------------------------------

/- The number written in a text, if it fits into 32 bits. -/
def toNumber (p : Parser String) : Parser UInt32 :=
  p.filterMap Text.unsigned32?

/-
  A number that fits into 32 bits. All digits in a row belong to
  it, so of a number that is too large no part is read either.
-/
def number : Parser UInt32 :=
  digit.repeated1.textOf.toNumber

/- A sign: the number that it multiplies by. -/
def sign : Parser Int :=
  (char '+').as 1 <|> (char '-').as (-1)

/-
  A number with its sign in front. Its digits must stand for a
  positive number of 32 bits with sign.
-/
def signedNumber : Parser Int32 :=
  ((fun s n => (s, n)) <$> sign <*> number).filterMap
    fun (s, n) =>
      if n.toNat < 0x80000000 then
        some (Int32.ofInt (s * n.toNat))
      else
        none

------------------------------------------------------------
-- Words and Blanks
------------------------------------------------------------

/- Whether a character is an apostrophe, also a typographic one. -/
def isApostrophe (c : Char) : Bool :=
  c == '\'' || c == '\uff07' || c == '’'

/- A word: letters, numbers and apostrophes. -/
def word : Parser String :=
  (character fun c =>
    Text.isAlphanumeric c || isApostrophe c).repeated1.textOf

/- One or more spaces and tabs. -/
def spaces : Parser String :=
  (oneOf " \t").repeated1.textOf

/- One or more line breaks. -/
def lineBreaks : Parser String :=
  (oneOf "\r\n").repeated1.textOf

/- One or more spaces, tabs and line breaks. -/
def blanks : Parser String :=
  (oneOf " \t\r\n").repeated1.textOf

/- Read nothing, where the last character does not begin a word. -/
def wordStart : Parser Unit where
  run c :=
    if c.previous?.any Text.isAlphanumeric then
      none
    else
      some ((), c)

/- Read nothing, where the next character does not go on a word. -/
def wordEnd : Parser Unit where
  run c :=
    if c.peek?.any Text.isAlphanumeric then
      none
    else
      some ((), c)

/- The given text where it is not part of a longer word. -/
def wholeWord (expected : String) : Parser String :=
  wordStart *> literal expected <* wordEnd

/- The text between an opening and the next closing bracket. -/
def bracketed : Parser String :=
  char '(' *> (character (· != ')')).repeated.textOf <* char ')'

end CreatureProse.Parser
