import CreatureProse.Proofs.Parser.Locality

/-
  Parsers of values without spans that read a text in place as
  they would read it on its own. What they give at a position is
  what they give for the text that begins there, as long as no
  word goes on across it.

  Main declarations:
    * `Standalone`
    * `Standalone.of_local`
    * `run_eq_some_of_parse?`
-/

namespace CreatureProse.Parser

variable {α β γ : Type}

/-
  A parser that never moves back and answers at a position of a
  text as in the text from an earlier position on.
-/
class Standalone (p : Parser α) : Prop extends Forward p where
  run_within
    {prose : Prose}
    (b : Cursor prose)
    (hBreak : b.Breaks)
    (c : Cursor b.suffix) :
    p.run (b.within c) =
      (p.run c).map fun reply => (reply.1, b.within reply.2)

namespace Standalone

/- Such a parser is local if its values are taken as they are. -/
theorem isLocal
    (p : Parser α)
    [Standalone p] :
    @Local α (Shift.fixed α) p :=
  fun b hBreak c => run_within b hBreak c

/- A local parser of values that hold no spans. -/
theorem of_local
    {p : Parser α}
    [Forward p]
    [Shift α]
    (hFixed : ∀ (a : α) (offset : Nat), Shift.shifted a offset = a)
    (hLocal : Local p) :
    Standalone p where
  run_within {_} b hBreak c := by
    rw [hLocal b hBreak c]
    apply congrArg fun f => (p.run c).map f
    funext reply
    exact congrArg (fun a => (a, b.within reply.2))
      (hFixed reply.1 b.position)

end Standalone

------------------------------------------------------------
-- Characters and Texts
------------------------------------------------------------

instance
    {accept : Char → Bool} :
    Standalone (character accept) :=
  .of_local (fun _ _ => rfl) (local_character accept)

instance
    {expected : String} :
    Standalone (literal expected) :=
  .of_local (fun _ _ => rfl) (local_literal expected)

instance : Standalone wordStart :=
  .of_local (fun _ _ => rfl) local_wordStart

instance : Standalone wordEnd :=
  .of_local (fun _ _ => rfl) local_wordEnd

instance : Standalone rest :=
  .of_local (fun _ _ => rfl) local_rest

instance : Standalone atEnd :=
  .of_local (fun _ _ => rfl) local_atEnd

instance (a : α) : Standalone (pure a) :=
  letI := Shift.fixed α
  .of_local (fun _ _ => rfl) (local_pure fun _ => rfl)

instance
    {expected : Char} :
    Standalone (char expected) :=
  inferInstanceAs (Standalone (character _))

instance
    {set : String} :
    Standalone (oneOf set) :=
  inferInstanceAs (Standalone (character set.toList.contains))

------------------------------------------------------------
-- Ways of Putting Parsers Together
------------------------------------------------------------

section Combinators

variable
  {p q : Parser α}
  {s : Parser β}
  {t : Parser γ}
  [Standalone p]
  [Standalone q]
  [Standalone s]
  [Standalone t]

instance
    {f : α → β} :
    Standalone (f <$> p) :=
  letI := Shift.fixed α
  letI := Shift.fixed β
  .of_local (fun _ _ => rfl)
    (Local.map (Standalone.isLocal p) fun _ _ => rfl)

instance
    {k : Parser (α → β)}
    [Standalone k] :
    Standalone (k <*> p) where
  run_within {_} b hBreak c := by
    rw [run_seq, run_seq, Standalone.run_within b hBreak]
    cases k.run c with
    | none => rfl
    | some first =>
        dsimp only [Option.map_some, Option.bind_some]
        rw [Standalone.run_within b hBreak]
        cases p.run first.2 with
        | none => rfl
        | some second => rfl

instance : Standalone (p <* s) :=
  inferInstanceAs (Standalone (Function.const β <$> p <*> s))

instance : Standalone (p *> s) :=
  inferInstanceAs (Standalone (Function.const α id <$> p <*> s))

instance
    {f : α → Option β} :
    Standalone (p.filterMap f) :=
  letI := Shift.fixed α
  letI := Shift.fixed β
  .of_local (fun _ _ => rfl)
    (Local.filterMap (Standalone.isLocal p) fun _ _ =>
      Option.map_id'.symm)

instance
    {keep : α → Bool} :
    Standalone (p.filter keep) :=
  inferInstanceAs (Standalone (p.filterMap _))

instance
    {b : β} :
    Standalone (p.as b) :=
  inferInstanceAs (Standalone ((fun _ => b) <$> p))

instance : Standalone (p <|> q) :=
  letI := Shift.fixed α
  .of_local (fun _ _ => rfl)
    (Local.orElse (Standalone.isLocal p) (Standalone.isLocal q))

instance : Standalone (firstOf ([] : List (Parser α))) :=
  letI := Shift.fixed α
  .of_local (fun _ _ => rfl) local_failure

instance
    {ps : List (Parser α)}
    [Standalone (firstOf ps)] :
    Standalone (firstOf (p :: ps)) :=
  inferInstanceAs (Standalone (p <|> firstOf ps))

instance : Standalone p.optional :=
  letI := Shift.fixed α
  .of_local (fun _ _ => Option.map_id')
    (Local.optional (Standalone.isLocal p))

instance : Standalone (p.padded s) :=
  inferInstanceAs (Standalone (s.optional *> p <* s.optional))

instance : Standalone p.repeated :=
  letI := Shift.fixed α
  .of_local (fun as _ => List.map_id' as)
    (Local.repeated (Standalone.isLocal p))

instance : Standalone p.repeated1 :=
  inferInstanceAs
    (Standalone (p.repeated.filter fun found => !found.isEmpty))

instance : Standalone (separated p s t) :=
  letI := Shift.fixed α
  letI := Shift.fixed β
  letI := Shift.fixed γ
  .of_local (fun as _ => List.map_id' as)
    (Local.separated (Standalone.isLocal p)
      (Standalone.isLocal s) (Standalone.isLocal t))

instance : Standalone p.seek :=
  letI := Shift.fixed α
  .of_local (fun _ _ => rfl) (Local.seek (Standalone.isLocal p))

instance : Standalone p.ahead :=
  inferInstanceAs (Standalone (Prod.snd <$> p.seek))

end Combinators

------------------------------------------------------------
-- Numbers and Words
------------------------------------------------------------

instance
    {p : Parser (List Char)}
    [Standalone p] :
    Standalone p.textOf :=
  inferInstanceAs (Standalone (String.ofList <$> p))

instance : Standalone number :=
  inferInstanceAs
    (Standalone
      (Parser.filterMap Text.unsigned32?
        (character Char.isDigit).repeated1.textOf))

instance : Standalone signedNumber :=
  inferInstanceAs
    (Standalone
      (Parser.filterMap _
        ((fun s n => (s, n))
          <$> ((char '+').as 1 <|> (char '-').as (-1))
          <*> number)))

instance : Standalone word :=
  inferInstanceAs (Standalone (Parser.textOf (repeated1 _)))

instance : Standalone blanks :=
  inferInstanceAs (Standalone (Parser.textOf (repeated1 _)))

instance
    {expected : String} :
    Standalone (wholeWord expected) :=
  inferInstanceAs
    (Standalone (wordStart *> literal expected <* wordEnd))

------------------------------------------------------------
-- Reading in Place
------------------------------------------------------------

/-
  What a parser gives for a text of its own it gives for that
  text at the end of another.
-/
theorem run_eq_some_of_parse?
    {p : Parser α}
    [Standalone p]
    {text left : String}
    {a : α}
    (hParse : p.parse? (Prose.ofString text) = some (a, left))
    {prose : Prose}
    {b : Cursor prose}
    (hBreak : b.Breaks)
    (hAhead : b.ahead = text.toList) :
    ∃ r : Cursor prose, p.run b = some (a, r) ∧ r.rest = left := by
  have hSuffix : b.suffix = Prose.ofString text := by
    apply Array.toList_inj.mp
    rw [Cursor.toList_suffix, hAhead]
    rfl
  rw [← hSuffix, Parser.parse?, Option.map_eq_some_iff] at hParse
  rcases hParse with ⟨⟨a', r⟩, hRun, hEq⟩
  cases hEq
  refine ⟨b.within r, ?_, Cursor.rest_within r⟩
  have hWithin :=
    Standalone.run_within (p := p) b hBreak (Cursor.start b.suffix)
  rw [Cursor.within_start, hRun] at hWithin
  exact hWithin

end CreatureProse.Parser
