import CreatureProse.Text.Alphabetic
import CreatureProse.Text.Numeric

/-
  This file defines the classes of characters that the grammars
  ask for: blanks, letters, and the letters and numbers that make
  up words.

  Key definitions include:
    * `isBlank`
    * `isAlphabetic`
    * `isAlphanumeric`
-/

namespace CreatureProse.Text

/- The characters with the Unicode property White_Space. -/
def blank : CharTable := #[
  (0x9, 0xd), (0x20, 0x20), (0x85, 0x85), (0xa0, 0xa0),
  (0x1680, 0x1680), (0x2000, 0x200a), (0x2028, 0x2029),
  (0x202f, 0x202f), (0x205f, 0x205f), (0x3000, 0x3000)
]

/- Whether a character is blank space in any script. -/
def isBlank (c : Char) : Bool :=
  if c.toNat < 128 then
    c == ' ' || (9 ≤ c.toNat && c.toNat ≤ 13)
  else
    blank.contains c

/-
  Whether a character is a letter in any script. The letters
  among the first 128 characters are told without the table.
-/
def isAlphabetic (c : Char) : Bool :=
  if c.toNat < 128 then c.isAlpha else alphabetic.contains c

/- Whether a character is a letter or a number in any script. -/
def isAlphanumeric (c : Char) : Bool :=
  if c.toNat < 128 then
    c.isAlphanum
  else
    alphabetic.contains c || numeric.contains c

end CreatureProse.Text
