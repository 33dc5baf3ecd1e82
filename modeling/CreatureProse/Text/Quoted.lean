import CreatureProse.Text.Unprintable

/-
  This file defines the quoted form of a text: between double
  quotes, with an escape for each character that could not be
  told apart or seen.

  Key definitions include:
    * `escape`
    * `quoted`
-/

namespace CreatureProse.Text

/- The lowercase hexadecimal numeral of a code point. -/
def hexadecimal (n : Nat) : String :=
  String.ofList (Nat.toDigits 16 n)

/- The code point of a character, written out. -/
def codePoint (c : Char) : String :=
  "\\u\x7b" ++ hexadecimal c.toNat ++ "\x7d"

/-
  A character inside a quoted text. A mark that would merge with
  the character before it is written by its code point, as is
  one without a visible form.
-/
def escape (c : Char) : String :=
  if c = '\x00' then "\\0"
  else if c = '\t' then "\\t"
  else if c = '\n' then "\\n"
  else if c = '\r' then "\\r"
  else if c = '"' then "\\\""
  else if c = '\\' then "\\\\"
  else if ' ' ≤ c && c ≤ '~' then c.toString
  else if extending.contains c || unprintable.contains c then
    codePoint c
  else c.toString

/- A text between double quotes, escaped where needed. -/
def quoted (s : String) : String :=
  "\"" ++ String.join (s.toList.map escape) ++ "\""

end CreatureProse.Text
