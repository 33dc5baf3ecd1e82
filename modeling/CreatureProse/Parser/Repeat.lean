import CreatureProse.Parser.Basic

/-
  This file defines the two ways of reading a list: elements one
  after the other, and elements with separators between them.

  Key definitions include:
    * `Parser.repeated`
    * `Parser.repeated1`
    * `Parser.Round`
    * `Parser.rounds`
    * `Parser.separated`
-/

namespace CreatureProse.Parser

variable {α β γ : Type} {prose : Prose}

------------------------------------------------------------
-- Plain Repetition
------------------------------------------------------------

/-
  Read elements from `c` on for as long as each of them moves
  ahead; `found` holds the earlier ones in reverse.
-/
def repeatFrom
    (p : Parser α)
    (c : Cursor prose)
    (found : List α) : List α × Cursor prose :=
  match p.run c with
  | none => (found.reverse, c)
  | some (a, next) =>
    if c.position < next.position then
      p.repeatFrom next (a :: found)
    else
      (found.reverse, c)
termination_by c.remaining
decreasing_by
  have := next.position_le
  simp only [Cursor.remaining]
  omega

/-
  Zero or more elements. An element that reads nothing ends the
  list and is not part of it.
-/
def repeated (p : Parser α) : Parser (List α) where
  run c := some (p.repeatFrom c [])

/- One or more elements. -/
def repeated1 (p : Parser α) : Parser (List α) :=
  p.repeated.filter fun found => !found.isEmpty

------------------------------------------------------------
-- Separated Lists
------------------------------------------------------------

/-
  Where the reading of a list stands when the next element is
  looked for: where the list ends if there is none, the place to
  look, and the elements so far in reverse.
-/
structure Round (α : Type) (prose : Prose) where
  before : Cursor prose
  here : Cursor prose
  found : List α
deriving DecidableEq

/-
  Look for one element and for the separator after it. A round
  leads to another one, or it is the last and gives the list with
  the place where it ends.
-/
def Round.step
    (element : Parser α)
    (separator : Parser β)
    (s : Round α prose) :
    Round α prose ⊕ (List α × Cursor prose) :=
  match element.run s.here with
  | none => .inr (s.found.reverse, s.before)
  | some (a, after) =>
    match separator.run after with
    | none => .inr ((a :: s.found).reverse, after)
    | some (_, next) => .inl ⟨after, next, a :: s.found⟩

section Rounds

variable {σ ρ : Type} (step : σ → σ ⊕ ρ)

/-
  What the last round gives, from a state on. If each round leads
  to another one, there is no end and no answer.
-/
def rounds (s : σ) : Option ρ :=
  match step s with
  | .inr last => some last
  | .inl next => by
    apply rounds
    exact next
partial_fixpoint

end Rounds

/-
  Read elements from `c` on with a separator after each but the
  last; `before` is where the list ends if no element follows,
  and `found` holds the earlier elements in reverse. While the
  elements move ahead with their separators, the recursion is on
  what lies ahead. Should an element and its separator both read
  nothing, the list has no end.
-/
def separateFrom
    (element : Parser α)
    (separator : Parser β)
    (before c : Cursor prose)
    (found : List α) : Option (List α × Cursor prose) :=
  match element.run c with
  | none => some (found.reverse, before)
  | some (a, after) =>
    match separator.run after with
    | none => some ((a :: found).reverse, after)
    | some (_, next) =>
      if c.position < next.position then
        separateFrom element separator after next (a :: found)
      else
        rounds (Round.step element separator)
          ⟨after, next, a :: found⟩
termination_by c.remaining
decreasing_by
  have := next.position_le
  simp only [Cursor.remaining]
  omega

/-
  Zero or more elements with separators between them, and then a
  terminator. A separator that no element follows is not read.
-/
def separated
    (element : Parser α)
    (separator : Parser β)
    (terminator : Parser γ) : Parser (List α) where
  run c :=
    match separateFrom element separator c c [] with
    | none => none
    | some (found, last) =>
      (terminator.run last).map fun (_, rest) => (found, rest)

end CreatureProse.Parser
