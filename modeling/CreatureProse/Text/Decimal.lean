/-
  This file defines the decimal numerals: how they are read and
  how signed numbers are shown.

  Key definitions include:
    * `natural?`
    * `unsigned32?`
    * `signed`
-/

namespace CreatureProse.Text

/- The value of a run of decimal digits read from the left. -/
def digitsValue (cs : List Char) : Nat :=
  cs.foldl (fun n c => 10 * n + (c.toNat - '0'.toNat)) 0

/- The value of a numeral: one or more decimal digits. -/
def natural? (cs : List Char) : Option Nat :=
  if cs.isEmpty || !cs.all Char.isDigit then
    none
  else
    some (digitsValue cs)

/- A number as a 32-bit number, if it is not too large. -/
def fit32? (n : Nat) : Option UInt32 :=
  if n < 0x100000000 then some (UInt32.ofNat n) else none

/-
  The 32-bit number that a numeral stands for. A plus sign may
  be written in front.
-/
def unsigned32? (s : String) : Option UInt32 :=
  match s.toList with
  | '+' :: digits => (natural? digits).bind fit32?
  | digits => (natural? digits).bind fit32?

/- A number with its sign, also when it is not negative. -/
def signed (n : Int) : String :=
  if n < 0 then toString n else "+" ++ toString n

end CreatureProse.Text
