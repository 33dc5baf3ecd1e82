import CreatureProse.Text.Case
import CreatureProse.Text.Split

/-
  This file defines how numbers and lists are put into English
  words, and the short names derived from titles.

  Key definitions include:
    * `ordinal`
    * `englishList`
    * `slug`
-/

namespace CreatureProse.Text

/-
  The ordinal form of a number. Numbers that end in 11, 12 or 13
  take the common ending.
-/
def ordinal (n : Nat) : String :=
  let ending :=
    if 11 ≤ n % 100 && n % 100 ≤ 13 then "th"
    else if n % 10 = 1 then "st"
    else if n % 10 = 2 then "nd"
    else if n % 10 = 3 then "rd"
    else "th"
  toString n ++ ending

/- Items separated by commas, the last one after a final "and". -/
def serialList : List String → String
| [] => ""
| [last] => "and " ++ last
| item :: rest => item ++ ", " ++ serialList rest

/-
  Items joined as an English list: two by "and" alone, three and
  more with a comma before the "and".
-/
def englishList : List String → String
| [] => ""
| [only] => only
| [first, second] => first ++ " and " ++ second
| items => serialList items

/-
  The short name of a title: its runs of letters and numbers in
  lower case, joined by hyphens.
-/
def slug (title : String) : String :=
  "-".intercalate
    ((stretches (fun c => !isAlphanumeric c) [] title.toList).map
      fun part => lowercase (String.ofList part))

end CreatureProse.Text
