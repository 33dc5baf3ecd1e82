import CreatureProse.Proofs.Action.DamageText
import CreatureProse.Proofs.Parser.Gap
import CreatureProse.Proofs.Text.Occurs

/-
  Parsers that account for damage: every damage clause that
  begins inside what such a parser reads goes into its value, or
  else meets one of its gaps.

  Main declarations:
    * `Barren`
    * `Accounts`
    * `Accounts.map₂`
    * `accounts_firstOf`
    * `Fence.accounts_seek`
    * `Accounts.separated`
-/

namespace CreatureProse

open CreatureProse.Parser Clause

------------------------------------------------------------
-- Texts Inside Texts
------------------------------------------------------------

/- What does not begin with a character that is dropped stays. -/
theorem infix_dropWhile
    {drop : Char → Bool}
    {a : Char}
    {part cs : List Char}
    (hInfix : a :: part <:+: cs)
    (hStays : drop a = false) :
    a :: part <:+: cs.dropWhile drop := by
  rcases hInfix with ⟨before, after, rfl⟩
  induction before with
  | nil =>
      rw [List.nil_append, List.cons_append,
        List.dropWhile_cons_of_neg (by rw [hStays]; simp)]
      exact (List.prefix_append ..).isInfix
  | cons b before ih =>
      rw [List.cons_append, List.cons_append, List.dropWhile_cons]
      split
      · exact ih
      · exact ⟨b :: before, after, rfl⟩

theorem Firm.infix_trimWhere
    {drop : Char → Bool}
    {part cs : List Char}
    (hFirm : Firm part)
    (hInfix : part <:+: cs)
    (hDigit : ∀ a : Char, a.isDigit = true → drop a = false)
    (hLetter : drop 'e' = false) :
    part <:+: Text.trimWhere drop cs := by
  rcases hFirm.first with ⟨a, rest, hFirst, ha⟩
  have hFront : part <:+: cs.dropWhile drop := by
    rw [hFirst] at hInfix ⊢
    exact infix_dropWhile hInfix (hDigit a ha)
  rcases hFirm.last with ⟨front, hLast⟩
  rw [Text.trimWhere, ← List.reverse_infix, List.reverse_reverse]
  rw [hLast, ← List.reverse_infix, List.reverse_append] at hFront
  rw [hLast, List.reverse_append]
  exact infix_dropWhile hFront hLetter

theorem isBlank_of_isDigit
    {a : Char}
    (hDigit : a.isDigit = true) :
    Text.isBlank a = false := by
  have hRange := Text.toNat_of_isDigit hDigit
  have hSpace : a ≠ ' ' := Text.ne_of_isDigit hDigit (by decide)
  rw [Text.isBlank, if_pos (by omega), Bool.or_eq_false_iff,
    beq_eq_false_iff_ne, Bool.and_eq_false_iff,
    decide_eq_false_iff_not, decide_eq_false_iff_not]
  exact ⟨hSpace, Or.inr (by omega)⟩

theorem Firm.occurs_trim
    {part whole : String}
    (hFirm : Firm part.toList)
    (hOccurs : Occurs part whole) :
    Occurs part (Text.trim whole) := by
  unfold Occurs
  rw [Text.trim, String.toList_ofList]
  exact hFirm.infix_trimWhere hOccurs
    (fun a => isBlank_of_isDigit) (by decide)

theorem Firm.occurs_residue
    {part whole : String}
    (hFirm : Firm part.toList)
    (hOccurs : Occurs part whole) :
    Occurs part (residue whole) := by
  have hStop :
      ∀ a : Char, a.isDigit = true → isStop a = false := by
    intro a ha
    simp only [isStop, Bool.or_eq_false_iff,
      beq_eq_false_iff_ne]
    exact
      ⟨⟨⟨Text.ne_of_isDigit ha (by decide),
        Text.ne_of_isDigit ha (by decide)⟩,
        Text.ne_of_isDigit ha (by decide)⟩,
        Text.ne_of_isDigit ha (by decide)⟩
  unfold Occurs
  rw [residue, String.toList_ofList]
  exact hFirm.infix_trimWhere
    (hFirm.infix_trimWhere hOccurs
      (fun a => isBlank_of_isDigit) (by decide))
    hStop (by decide)

theorem Firm.exists_nonBlank?
    {part whole : String}
    (hFirm : Firm part.toList)
    (hOccurs : Occurs part whole) :
    ∃ s, nonBlank? whole = some s ∧ Occurs part s := by
  have hTrim := hFirm.occurs_trim hOccurs
  unfold nonBlank?
  split
  · rename_i hEmpty
    rw [hEmpty] at hTrim
    rcases hFirm.first with ⟨a, rest, hFirst, -⟩
    have hNil := List.infix_nil.mp hTrim
    rw [hFirst] at hNil
    cases hNil
  · exact ⟨_, rfl, hTrim⟩

------------------------------------------------------------
-- Parsers That Account for Damage
------------------------------------------------------------

variable {α β γ : Type}

/- No damage clause begins inside what a parser reads. -/
structure Barren (p : Parser α) : Prop where
  le
    {prose : Prose}
    {c r x y : Cursor prose}
    {a : α}
    {d : Damage} :
    p.run c = some (a, r) → DamageClause x y d →
      c.position ≤ x.position → r.position ≤ x.position

/-
  Every damage clause that begins inside what a parser reads is
  kept by the value, as damage or as text, or else meets a gap.
-/
structure Accounts
    (p : Parser α)
    (keeps : α → Damage → String → Prop)
    (gap : Gap) : Prop where
  of_run
    {prose : Prose}
    {c r x y : Cursor prose}
    {a : α}
    {d : Damage} :
    p.run c = some (a, r) → DamageClause x y d →
      c.position ≤ x.position → x.position < r.position →
        keeps a d (x.textUntil y) ∨ gap.Meets c x y

theorem barren_of_notDigit
    {p : Parser α}
    (hReads : ReadsOnly notDigit p) :
    Barren p := by
  constructor
  intro prose c r x y a d hRun hClause hFirst
  rcases hReads.of_run hRun with ⟨read, hAhead, hNone⟩
  exact hClause.le_of_forall_notDigit hAhead hNone hFirst

------------------------------------------------------------
-- Barren Parsers
------------------------------------------------------------

section Barren

variable {p q : Parser α} {s : Parser β}

theorem Barren.map
    {f : α → β}
    (hp : Barren p) :
    Barren (f <$> p) := by
  constructor
  intro prose c r x y b d hRun hClause hFirst
  rcases run_map_eq_some.mp hRun with ⟨a, hRead, -⟩
  exact hp.le hRead hClause hFirst

theorem Barren.seq
    {t : Parser (α → β)}
    (ht : Barren t)
    (hp : Barren p) :
    Barren (t <*> p) := by
  constructor
  intro prose c r x y b d hRun hClause hFirst
  rcases run_seq_eq_some.mp hRun with
    ⟨f, m, hOne, a, hTwo, -⟩
  exact hp.le hTwo hClause (ht.le hOne hClause hFirst)

theorem Barren.seqLeft
    (hp : Barren p)
    (hs : Barren s) :
    Barren (p <* s) := by
  change Barren (Function.const β <$> p <*> s)
  exact hp.map.seq hs

theorem Barren.seqRight
    (hp : Barren p)
    (hs : Barren s) :
    Barren (p *> s) := by
  change Barren (Function.const α id <$> p <*> s)
  exact hp.map.seq hs

theorem Barren.orElse
    (hp : Barren p)
    (hq : Barren q) :
    Barren (p <|> q) := by
  constructor
  intro prose c r x y a d hRun hClause hFirst
  rcases run_orElse_eq_some.mp hRun with hOne | ⟨-, hTwo⟩
  · exact hp.le hOne hClause hFirst
  · exact hq.le hTwo hClause hFirst

theorem Barren.optional
    (hp : Barren p) :
    Barren p.optional := by
  constructor
  intro prose c r x y a d hRun hClause hFirst
  rcases run_optional_eq_some.mp hRun with
    ⟨b, hOne, -⟩ | ⟨-, -, rfl⟩
  · exact hp.le hOne hClause hFirst
  · exact hFirst

/- A barren parser accounts for all there is. -/
theorem Barren.accounts
    (hp : Barren p)
    (keeps : α → Damage → String → Prop) :
    Accounts p keeps .nowhere := by
  constructor
  intro prose c r x y a d hRun hClause hFirst hLast
  have hLe := hp.le hRun hClause hFirst
  omega

end Barren

------------------------------------------------------------
-- Sequence
------------------------------------------------------------

section Accounts

variable
  {p q : Parser α}
  {s : Parser β}
  {keeps : α → Damage → String → Prop}
  {more : β → Damage → String → Prop}
  {kept : γ → Damage → String → Prop}
  {gap other : Gap}

/- All that a parser reads may be taken for a gap. -/
theorem accounts_whole
    (p : Parser α)
    (keeps : α → Damage → String → Prop) :
    Accounts p keeps (.whole p) := by
  constructor
  intro prose c r x y a d hRun hClause hFirst hLast
  refine Or.inr ⟨_, ⟨a, r, hRun, rfl⟩, ?_⟩
  have hLt := hClause.lt
  rw [Span.overlaps_iff]
  dsimp only
  omega

/- What is kept in one way may be kept in another. -/
theorem Accounts.imp
    {keeps' : α → Damage → String → Prop}
    (hp : Accounts p keeps gap)
    (hKeeps : ∀ a d text, keeps a d text → keeps' a d text) :
    Accounts p keeps' gap := by
  constructor
  intro prose c r x y a d hRun hClause hFirst hLast
  exact (hp.of_run hRun hClause hFirst hLast).imp_left
    (hKeeps a d _)

theorem Accounts.map
    {f : α → γ}
    (hp : Accounts p keeps gap)
    (hKeeps : ∀ a d text, Firm text.toList → keeps a d text →
      kept (f a) d text) :
    Accounts (f <$> p) kept gap := by
  constructor
  intro prose c r x y b d hRun hClause hFirst hLast
  rcases run_map_eq_some.mp hRun with ⟨a, hRead, rfl⟩
  exact (hp.of_run hRead hClause hFirst hLast).imp_left
    (hKeeps a d _ hClause.firm)

theorem Accounts.filterMap
    {f : α → Option γ}
    (hp : Accounts p keeps gap)
    (hKeeps : ∀ a b d text, Firm text.toList → f a = some b →
      keeps a d text → kept b d text) :
    Accounts (p.filterMap f) kept gap := by
  constructor
  intro prose c r x y b d hRun hClause hFirst hLast
  rcases run_filterMap_eq_some.mp hRun with ⟨a, hRead, hEq⟩
  exact (hp.of_run hRead hClause hFirst hLast).imp_left
    (hKeeps a b d _ hClause.firm hEq)

theorem Accounts.filter
    (hp : Accounts p keeps gap)
    (keep : α → Bool) :
    Accounts (p.filter keep) keeps gap := by
  constructor
  intro prose c r x y a d hRun hClause hFirst hLast
  exact hp.of_run (run_filter_eq_some.mp hRun).1 hClause hFirst
    hLast

/-
  What begins in the first part is kept by it, and what begins
  after it by the second.
-/
theorem Accounts.map₂
    {f : α → β → γ}
    (hp : Accounts p keeps gap)
    (hs : Accounts s more other)
    (hLeft : ∀ a b d text, Firm text.toList → keeps a d text →
      kept (f a b) d text)
    (hRight : ∀ a b d text, Firm text.toList → more b d text →
      kept (f a b) d text) :
    Accounts (f <$> p <*> s) kept
      (.either gap (.after p other)) := by
  constructor
  intro prose c r x y e d hRun hClause hFirst hLast
  rcases run_seq_eq_some.mp hRun with
    ⟨g, m, hMap, b, hTwo, rfl⟩
  rcases run_map_eq_some.mp hMap with ⟨a, hOne, rfl⟩
  by_cases hBefore : x.position < m.position
  · rcases hp.of_run hOne hClause hFirst hBefore with
      hKept | ⟨span, hGap, hOverlap⟩
    · exact Or.inl (hLeft a b d _ hClause.firm hKept)
    · exact Or.inr ⟨span, Or.inl hGap, hOverlap⟩
  · rcases hs.of_run hTwo hClause (Nat.le_of_not_lt hBefore)
        hLast with hKept | ⟨span, hGap, hOverlap⟩
    · exact Or.inl (hRight a b d _ hClause.firm hKept)
    · exact Or.inr
        ⟨span, Or.inr ⟨a, m, hOne, hGap⟩, hOverlap⟩

/- Only what follows the first part has gaps. -/
theorem Accounts.map₂_after
    {f : α → β → γ}
    (hp : Accounts p keeps .nowhere)
    (hs : Accounts s more other)
    (hLeft : ∀ a b d text, Firm text.toList → keeps a d text →
      kept (f a b) d text)
    (hRight : ∀ a b d text, Firm text.toList → more b d text →
      kept (f a b) d text) :
    Accounts (f <$> p <*> s) kept (.after p other) := by
  have hBoth := hp.map₂ hs hLeft hRight
  rwa [Gap.nowhere_either] at hBoth

/- Only the first part has gaps. -/
theorem Accounts.map₂_before
    {f : α → β → γ}
    (hp : Accounts p keeps gap)
    (hs : Accounts s more .nowhere)
    (hLeft : ∀ a b d text, Firm text.toList → keeps a d text →
      kept (f a b) d text)
    (hRight : ∀ a b d text, Firm text.toList → more b d text →
      kept (f a b) d text) :
    Accounts (f <$> p <*> s) kept gap := by
  have hBoth := hp.map₂ hs hLeft hRight
  rwa [Gap.after_nowhere, Gap.either_nowhere] at hBoth

/- The first part is barren. -/
theorem Accounts.map₂_barren
    {f : α → β → γ}
    (hp : Barren p)
    (hs : Accounts s more other)
    (hKeeps : ∀ a b d text, Firm text.toList → more b d text →
      kept (f a b) d text) :
    Accounts (f <$> p <*> s) kept (.after p other) :=
  (hp.accounts fun _ _ _ => False).map₂_after hs
    (fun _ _ _ _ _ hNever => hNever.elim) hKeeps

theorem Accounts.seq_barren
    {t : Parser (β → γ)}
    (ht : Accounts t (fun f d text => ∀ b, kept (f b) d text) gap)
    (hs : Barren s) :
    Accounts (t <*> s) kept gap := by
  constructor
  intro prose c r x y e d hRun hClause hFirst hLast
  rcases run_seq_eq_some.mp hRun with
    ⟨f, m, hOne, b, hTwo, rfl⟩
  have hBefore : x.position < m.position := by
    apply Nat.lt_of_not_le
    intro hLe
    have hBeyond := hs.le hTwo hClause hLe
    omega
  exact (ht.of_run hOne hClause hFirst hBefore).imp_left
    fun hKept => hKept b

theorem Accounts.seqLeft
    (hp : Accounts p keeps gap)
    (hs : Barren s) :
    Accounts (p <* s) keeps gap := by
  change Accounts (Function.const β <$> p <*> s) keeps gap
  exact (hp.map fun _ _ _ _ hKept _ => hKept).seq_barren hs

/- The gaps of a last part whose value does not count. -/
theorem Accounts.seqLeft_gap
    (hp : Accounts p keeps gap)
    (hs : Accounts s (fun _ _ _ => False) other) :
    Accounts (p <* s) keeps (.either gap (.after p other)) := by
  change Accounts (Function.const β <$> p <*> s) keeps _
  exact hp.map₂ hs (fun _ _ _ _ _ hKept => hKept)
    (fun _ _ _ _ _ hNever => hNever.elim)

theorem Accounts.seqRight
    (hs : Accounts s more other)
    (hp : Barren p) :
    Accounts (p *> s) more (.after p other) := by
  change Accounts (Function.const α id <$> p <*> s) more _
  exact .map₂_barren hp hs fun _ _ _ _ _ hKept => hKept

theorem Accounts.seqRight_nowhere
    (hs : Accounts s more .nowhere)
    (hp : Barren p) :
    Accounts (p *> s) more .nowhere := by
  have hBoth := hs.seqRight hp
  rwa [Gap.after_nowhere] at hBoth

/- The gaps of a first part whose value does not count. -/
theorem Accounts.seqRight_gap
    (hp : Accounts p (fun _ _ _ => False) gap)
    (hs : Accounts s more other) :
    Accounts (p *> s) more (.either gap (.after p other)) := by
  change Accounts (Function.const α id <$> p <*> s) more _
  exact hp.map₂ hs (fun _ _ _ _ _ hNever => hNever.elim)
    (fun _ _ _ _ _ hKept => hKept)

theorem Accounts.padded
    (hp : Accounts p keeps gap)
    (hs : Barren s) :
    Accounts (p.padded s) keeps (.after s.optional gap) :=
  (hp.seqRight hs.optional).seqLeft hs.optional

------------------------------------------------------------
-- Choice
------------------------------------------------------------

theorem Accounts.orElse
    (hp : Accounts p keeps gap)
    (hq : Accounts q keeps other) :
    Accounts (p <|> q) keeps (.orElse p gap other) := by
  constructor
  intro prose c r x y a d hRun hClause hFirst hLast
  rcases run_orElse_eq_some.mp hRun with hOne | ⟨hNone, hTwo⟩
  · rcases hp.of_run hOne hClause hFirst hLast with
      hKept | ⟨span, hGap, hOverlap⟩
    · exact Or.inl hKept
    · exact Or.inr ⟨span, Or.inl ⟨⟨_, hOne⟩, hGap⟩, hOverlap⟩
  · rcases hq.of_run hTwo hClause hFirst hLast with
      hKept | ⟨span, hGap, hOverlap⟩
    · exact Or.inl hKept
    · exact Or.inr ⟨span, Or.inr ⟨hNone, hGap⟩, hOverlap⟩

/- Each of several parsers has the gaps it is listed with. -/
theorem accounts_firstOf
    (forms : List (Parser α × Gap))
    (hAll : ∀ form ∈ forms, Accounts form.1 keeps form.2) :
    Accounts (firstOf (forms.map Prod.fst)) keeps
      (.first forms) := by
  induction forms with
  | nil =>
      constructor
      intro prose c r x y a d hRun
      cases hRun
  | cons form forms ih =>
      rw [List.forall_mem_cons] at hAll
      exact hAll.1.orElse (ih hAll.2)

theorem Accounts.optional
    (hp : Accounts p keeps gap) :
    Accounts p.optional
      (fun a? d text => ∃ a ∈ a?, keeps a d text) gap := by
  constructor
  intro prose c r x y a? d hRun hClause hFirst hLast
  rcases run_optional_eq_some.mp hRun with
    ⟨a, hOne, rfl⟩ | ⟨-, -, rfl⟩
  · exact (hp.of_run hOne hClause hFirst hLast).imp_left
      fun hKept => ⟨a, rfl, hKept⟩
  · omega

------------------------------------------------------------
-- Search and Lists
------------------------------------------------------------

/-
  Text that is skipped is kept as a whole. A clause that goes
  on beyond it meets what ends the search.
-/
theorem accounts_seek (q : Parser α) :
    Accounts (Prod.fst <$> q.seek)
      (fun skipped _ text => Occurs text skipped)
      (.found q (.whole q)) := by
  constructor
  intro prose c r x y skipped d hRun hClause hFirst hLast
  rcases run_map_eq_some.mp hRun with
    ⟨⟨_, a⟩, hSeek, rfl⟩
  rw [run_seek, Option.map_eq_some_iff] at hSeek
  rcases hSeek with ⟨⟨m, b, n⟩, hFrom, hEq⟩
  cases hEq
  have hRead := (seekFrom_eq_some hFrom).2.1
  by_cases hInside : y.position ≤ m.position
  · exact Or.inl
      (Cursor.textUntil_infix hFirst (Nat.le_of_lt hClause.lt)
        hInside)
  · refine Or.inr
      ⟨⟨m.position, n.position⟩,
        ⟨m, _, hFrom, b, n, hRead, rfl⟩, ?_⟩
    rw [Span.overlaps_iff]
    dsimp only at hLast ⊢
    omega

/- No damage clause goes across what such a parser reads. -/
structure Fence (q : Parser α) : Prop where
  le
    {prose : Prose}
    {m n x y : Cursor prose}
    {a : α}
    {d : Damage} :
    q.run m = some (a, n) → DamageClause x y d →
      x.position < n.position → y.position ≤ m.position

theorem Fence.accounts_seek
    {q : Parser α}
    (hq : Fence q) :
    Accounts (Prod.fst <$> q.seek)
      (fun skipped _ text => Occurs text skipped) .nowhere := by
  constructor
  intro prose c r x y skipped d hRun hClause hFirst hLast
  rcases (CreatureProse.accounts_seek q).of_run hRun hClause
      hFirst hLast with hKept | ⟨span, hGap, hOverlap⟩
  · exact Or.inl hKept
  · rcases hGap with ⟨m, _, hFrom, a, n, hRead, rfl⟩
    rw [Span.overlaps_iff] at hOverlap
    dsimp only at hOverlap
    have hLe := hq.le hRead hClause hOverlap.2
    omega

theorem Fence.barren
    {q : Parser α}
    (hq : Fence q) :
    Barren q := by
  constructor
  intro prose c r x y a d hRun hClause hFirst
  apply Nat.le_of_not_lt
  intro hLt
  have hLe := hq.le hRun hClause hLt
  have hForward := hClause.lt
  omega

theorem Parser.Listed.accounts
    [Forward s]
    (hp : Accounts p keeps gap)
    (hs : Barren s)
    {prose : Prose}
    {before c r x y : Cursor prose}
    {as : List α}
    {d : Damage}
    (hListed : Listed p s before c as r)
    (hClause : DamageClause x y d)
    (hBefore : before.position ≤ c.position)
    (hFirst : c.position ≤ x.position)
    (hLast : x.position < r.position) :
    (∃ a ∈ as, keeps a d (x.textUntil y)) ∨
      (Gap.listed p s gap).Meets c x y := by
  induction hListed with
  | stop hNone => omega
  | last hRun hNone =>
      rcases hp.of_run hRun hClause hFirst hLast with
        hKept | ⟨span, hGap, hOverlap⟩
      · exact Or.inl ⟨_, List.mem_singleton_self _, hKept⟩
      · exact Or.inr ⟨span, ⟨_, .first, hGap⟩, hOverlap⟩
  | @more before c after next r a b as hRun hSeparator hMore ih =>
      by_cases hHere : x.position < after.position
      · rcases hp.of_run hRun hClause hFirst hHere with
          hKept | ⟨span, hGap, hOverlap⟩
        · exact Or.inl ⟨a, List.mem_cons_self .., hKept⟩
        · exact Or.inr ⟨span, ⟨_, .first, hGap⟩, hOverlap⟩
      · have hNext :=
          hs.le hSeparator hClause (Nat.le_of_not_lt hHere)
        rcases ih (Forward.le hSeparator) hNext hLast with
          ⟨e, he, hKept⟩ | ⟨span, ⟨m, hAt, hGap⟩, hOverlap⟩
        · exact Or.inl ⟨e, List.mem_cons_of_mem a he, hKept⟩
        · exact Or.inr
            ⟨span, ⟨m, hAt.of_rest hRun hSeparator, hGap⟩,
              hOverlap⟩

theorem Accounts.separated
    [Forward s]
    (hp : Accounts p keeps gap)
    (hs : Barren s) :
    Accounts (Parser.separated p s (pure ()))
      (fun as d text => ∃ a ∈ as, keeps a d text)
      (.listed p s gap) := by
  constructor
  intro prose c r x y as d hRun hClause hFirst hLast
  rcases run_separated_eq_some.mp hRun with
    ⟨last, hListed, u, hEnd⟩
  rw [(run_pure_eq_some.mp hEnd).2] at hListed
  exact hListed.accounts hp hs hClause (Nat.le_refl _) hFirst
    hLast

end Accounts

end CreatureProse
