import CreatureProse.Proofs.Ordered.Map
import CreatureProse.Proofs.Parser.Search
import CreatureProse.Proofs.Parser.Takes
import CreatureProse.Proofs.Reference.Catalog
import Mathlib.Data.List.Induction

/-
  What a catalog finds in a text, described apart from its
  parser. From left to right, at each place where a known name
  stands as a whole phrase, the longest such name is mentioned,
  and the next mention is looked for behind it. A name is known
  as what it was registered as last. In which order the names
  were registered, and in which they are listed when the parser
  is made of them, leaves no trace.

  Main declarations:
    * `Catalog.StandsAt`
    * `Catalog.Longest`
    * `Catalog.Mentions`
    * `Catalog.lastKind?`
    * `Catalog.get?_ofList`
    * `Catalog.Listing.run_eq_some_iff`
    * `Catalog.Listing.allIn_eq_iff_mentions`
    * `Catalog.allIn_longest_mentions`
-/

namespace CreatureProse.Catalog

open CreatureProse.Parser

variable {prose : Prose} {c d r s : Cursor prose}

------------------------------------------------------------
-- Mentions
------------------------------------------------------------

/-
  A text stands at a position, up to another one, and it is not
  part of a longer word.
-/
structure StandsAt
    (name : String)
    (c r : Cursor prose) : Prop where
  text : c.ahead = name.toList ++ r.ahead
  start : ∀ a ∈ c.previous?, Text.isAlphanumeric a = false
  stop : NotNext Text.isAlphanumeric r.ahead

/- No known name stands at a position. -/
def Free
    (kind? : String → Option ItemKind)
    (c : Cursor prose) : Prop :=
  ∀ name r, StandsAt name c r → kind? name = none

/- The longest of the known names that stand at a position. -/
structure Longest
    (kind? : String → Option ItemKind)
    (c r : Cursor prose)
    (name : String)
    (kind : ItemKind) : Prop where
  known : kind? name = some kind
  stands : StandsAt name c r
  longest : ∀ other s, StandsAt other c s →
    (kind? other).isSome → other.length ≤ name.length

/-
  The mentions of known names from a position on: each is the
  longest name at the first place where there is one, and those
  behind it begin after its end.
-/
inductive Mentions
    (kind? : String → Option ItemKind)
    {prose : Prose} :
    Cursor prose → List (Located ItemReference) → Prop where
| nil
    {c : Cursor prose}
    (hFree : ∀ d : Cursor prose, c.position ≤ d.position →
      Free kind? d) :
    Mentions kind? c []
| cons
    {c s r : Cursor prose}
    {name : String}
    {kind : ItemKind}
    {more : List (Located ItemReference)}
    (hLe : c.position ≤ s.position)
    (hFree : ∀ d : Cursor prose, c.position ≤ d.position →
      d.position < s.position → Free kind? d)
    (hLongest : Longest kind? s r name kind)
    (hMore : Mentions kind? r more) :
    Mentions kind? c
      (⟨⟨name, some kind⟩, ⟨s.position, r.position⟩⟩ :: more)

/- The longest name at a position is the only one. -/
theorem Longest.unique
    {kind? : String → Option ItemKind}
    {name other : String}
    {kind k : ItemKind}
    (hFirst : Longest kind? c r name kind)
    (hSecond : Longest kind? c s other k) :
    name = other ∧ kind = k ∧ r = s := by
  have hLength : name.length = other.length := by
    apply Nat.le_antisymm
    · exact hSecond.longest name r hFirst.stands
        (by rw [hFirst.known]; rfl)
    · exact hFirst.longest other s hSecond.stands
        (by rw [hSecond.known]; rfl)
  have hText :=
    hFirst.stands.text.symm.trans hSecond.stands.text
  rw [← String.length_toList, ← String.length_toList] at hLength
  rcases List.append_inj hText hLength with ⟨hNames, hRest⟩
  have hKnown := hFirst.known
  rw [String.toList_inj.mp hNames, hSecond.known,
    Option.some.injEq] at hKnown
  exact
    ⟨String.toList_inj.mp hNames, hKnown.symm,
      Cursor.eq_of_ahead_eq hRest⟩

------------------------------------------------------------
-- Registered Names
------------------------------------------------------------

/- What a name was registered as last, if it was at all. -/
def lastKind?
    (registrations : List (String × ItemKind))
    (name : String) : Option ItemKind :=
  if name = "" then
    none
  else
    (registrations.reverse.find? fun e =>
      decide (Text.lowercase (Text.trim e.1) = name)).map Prod.snd

/- No catalog knows the empty name. -/
theorem get?_empty (catalog : Catalog) :
    catalog.names.get? "" = none := by
  cases hKind : catalog.names.get? "" with
  | none => rfl
  | some kind =>
      exact absurd rfl
        (catalog.named _ (OrderedMap.get?_eq_some_iff.mp hKind))

/- Registration changes what is known of its own name only. -/
theorem get?_register
    (catalog : Catalog)
    (written name : String)
    (kind : ItemKind) :
    (catalog.register written kind).names.get? name =
      if name = Text.lowercase (Text.trim written) ∧ name ≠ "" then
        some kind
      else
        catalog.names.get? name := by
  unfold register
  dsimp only
  split
  · rename_i hEmpty
    rw [hEmpty, if_neg fun hBoth => hBoth.2 hBoth.1]
  · rename_i hNamed
    rw [OrderedMap.get?_insert]
    by_cases hName : name = Text.lowercase (Text.trim written)
    · rw [if_pos hName, if_pos ⟨hName, hName ▸ hNamed⟩]
    · rw [if_neg hName, if_neg fun hBoth => hName hBoth.1]

/- Names are known as what they were registered as last. -/
theorem get?_ofList
    (registrations : List (String × ItemKind))
    (name : String) :
    (ofList registrations).names.get? name =
      lastKind? registrations name := by
  induction registrations using List.reverseRecOn with
  | nil =>
      have hNone : (ofList []).names.get? name = none := rfl
      rw [hNone, lastKind?, List.reverse_nil, List.find?_nil,
        Option.map_none, ite_self]
  | append_singleton more e ih =>
      have hFold :
          ofList (more ++ [e]) = (ofList more).register e.1 e.2 := by
        rw [ofList, List.foldl_append, List.foldl_cons,
          List.foldl_nil, ofList]
      rw [hFold, get?_register, ih]
      unfold lastKind?
      rw [List.reverse_append, List.reverse_singleton,
        List.singleton_append, List.find?_cons]
      by_cases hName : name = ""
      · simp [hName]
      · by_cases hKey : Text.lowercase (Text.trim e.1) = name
        · simp [hName, hKey]
        · simp [hName, hKey, Ne.symm hKey]

------------------------------------------------------------
-- Whole Phrases
------------------------------------------------------------

/- A whole phrase is read where it stands. -/
theorem run_wholeWord_eq_some_iff
    {name text : String} :
    (wholeWord name).run c = some (text, r) ↔
      name = text ∧ StandsAt name c r := by
  constructor
  · intro hRun
    rcases ahead_of_run_wholeWord hRun with ⟨hText, hAhead⟩
    rcases run_seqLeft_eq_some.mp hRun with ⟨m, hWord, _, hEnd⟩
    rcases run_seqRight_eq_some.mp hWord with ⟨_, n, hStart, -⟩
    have hStop := notNext_of_run_wordEnd hEnd
    rw [eq_of_run_wordEnd hEnd] at hStop
    exact ⟨hText, hAhead, previous?_of_run_wordStart hStart, hStop⟩
  · rintro ⟨rfl, hStands⟩
    exact run_wholeWord hStands.start hStands.text hStands.stop

/- The parser of a single name. -/
def phrase (e : String × ItemKind) : Parser ItemReference :=
  (fun text => ⟨text, some e.2⟩) <$> wholeWord e.1

theorem run_phrase_eq_some_iff
    {e : String × ItemKind}
    {reference : ItemReference} :
    (phrase e).run c = some (reference, r) ↔
      reference = ⟨e.1, some e.2⟩ ∧ StandsAt e.1 c r := by
  rw [phrase, run_map_eq_some]
  simp only [run_wholeWord_eq_some_iff]
  constructor
  · rintro ⟨_, ⟨rfl, hStands⟩, rfl⟩
    exact ⟨rfl, hStands⟩
  · rintro ⟨rfl, hStands⟩
    exact ⟨e.1, ⟨rfl, hStands⟩, rfl⟩

theorem not_standsAt_of_run_phrase
    {e : String × ItemKind}
    (hNone : (phrase e).run c = none) :
    ¬ StandsAt e.1 c r := by
  intro hStands
  rw [run_phrase_eq_some_iff.mpr ⟨rfl, hStands⟩] at hNone
  cases hNone

------------------------------------------------------------
-- Listings
------------------------------------------------------------

/- All names of a catalog, longer ones in front of shorter ones. -/
structure Listing
    (catalog : Catalog)
    (listing : List (String × ItemKind)) : Prop where
  perm : listing.Perm catalog.names.entries
  longestFirst : listing.Pairwise fun a b =>
    b.1.length ≤ a.1.length

/- What is read from a listing is the longest of its names here. -/
theorem longest_of_run_phrases
    {listing : List (String × ItemKind)}
    {reference : ItemReference}
    (hOrder : listing.Pairwise fun a b => b.1.length ≤ a.1.length)
    (hRun :
      (firstOf (listing.map phrase)).run c = some (reference, r)) :
    ∃ e ∈ listing, reference = ⟨e.1, some e.2⟩ ∧
      StandsAt e.1 c r ∧
        ∀ d ∈ listing, ∀ s, StandsAt d.1 c s →
          d.1.length ≤ e.1.length := by
  induction listing with
  | nil => cases hRun
  | cons e more ih =>
      rw [List.pairwise_cons] at hOrder
      rw [List.map_cons] at hRun
      rcases run_firstOf_cons.mp hRun with hHead | ⟨hNone, hMore⟩
      · rcases run_phrase_eq_some_iff.mp hHead with ⟨hText, hStands⟩
        refine ⟨e, List.mem_cons_self .., hText, hStands, ?_⟩
        exact List.forall_mem_cons.mpr
          ⟨fun _ _ => Nat.le_refl _,
            fun d hd _ _ => hOrder.1 d hd⟩
      · rcases ih hOrder.2 hMore with
          ⟨d, hd, hText, hStands, hLongest⟩
        refine
          ⟨d, List.mem_cons_of_mem e hd, hText, hStands, ?_⟩
        exact List.forall_mem_cons.mpr
          ⟨fun _ hHere =>
            absurd hHere (not_standsAt_of_run_phrase hNone),
            hLongest⟩

namespace Listing

variable
  {catalog : Catalog}
  {listing : List (String × ItemKind)}

theorem mem_iff
    (hListing : Listing catalog listing)
    {name : String}
    {kind : ItemKind} :
    (name, kind) ∈ listing ↔ catalog.names.get? name = some kind := by
  rw [hListing.perm.mem_iff, OrderedMap.get?_eq_some_iff]

/- Nothing is read where no name stands. -/
theorem run_eq_none_iff (hListing : Listing catalog listing) :
    (firstOf (listing.map phrase)).run c = none ↔
      Free catalog.names.get? c := by
  constructor
  · intro hNone name r hStands
    cases hKind : catalog.names.get? name with
    | none => rfl
    | some kind =>
        have hPhrase : (phrase (name, kind)).run c = none :=
          run_eq_none_of_run_firstOf hNone _
            (List.mem_map_of_mem (hListing.mem_iff.mpr hKind))
        exact absurd hStands (not_standsAt_of_run_phrase hPhrase)
  · intro hFree
    apply run_eq_none
    intro reference r hRun
    rcases longest_of_run_phrases hListing.longestFirst hRun with
      ⟨⟨name, kind⟩, hMem, -, hStands, -⟩
    have hKnown := hListing.mem_iff.mp hMem
    rw [hFree name r hStands] at hKnown
    cases hKnown

/- What is read is the longest name that stands at the position. -/
theorem run_eq_some_iff
    (hListing : Listing catalog listing)
    {reference : ItemReference} :
    (firstOf (listing.map phrase)).run c = some (reference, r) ↔
      ∃ name kind, reference = ⟨name, some kind⟩ ∧
        Longest catalog.names.get? c r name kind := by
  have hSound
      {reference : ItemReference}
      {r : Cursor prose}
      (hRun :
        (firstOf (listing.map phrase)).run c = some (reference, r)) :
      ∃ name kind, reference = ⟨name, some kind⟩ ∧
        Longest catalog.names.get? c r name kind := by
    rcases longest_of_run_phrases hListing.longestFirst hRun with
      ⟨⟨name, kind⟩, hMem, hText, hStands, hLongest⟩
    refine
      ⟨name, kind, hText, hListing.mem_iff.mp hMem, hStands, ?_⟩
    intro other s hOther hKnown
    rcases Option.isSome_iff_exists.mp hKnown with ⟨k, hKind⟩
    exact hLongest _ (hListing.mem_iff.mpr hKind) s hOther
  refine ⟨hSound, ?_⟩
  rintro ⟨name, kind, rfl, hLongest⟩
  cases hRun : (firstOf (listing.map phrase)).run c with
  | none =>
      have hFree := hListing.run_eq_none_iff.mp hRun
      have hKnown := hLongest.known
      rw [hFree name r hLongest.stands] at hKnown
      cases hKnown
  | some reply =>
      obtain ⟨reference, s⟩ := reply
      rcases hSound hRun with ⟨other, k, rfl, hOther⟩
      rcases hOther.unique hLongest with ⟨rfl, rfl, rfl⟩
      rfl

/- No name is empty, so that what is read is not, either. -/
theorem lt_of_longest
    {name : String}
    {kind : ItemKind}
    (hLongest : Longest catalog.names.get? c r name kind) :
    c.position < r.position := by
  have hNamed : name ≠ "" := by
    rintro rfl
    have hKnown := hLongest.known
    rw [catalog.get?_empty] at hKnown
    cases hKnown
  apply Cursor.position_lt_of_ahead_eq hLongest.stands.text
  rwa [ne_eq, String.toList_eq_nil_iff]

/- A scan of the text is made of the mentions in it. -/
theorem mentions_of_scan
    (hListing : Listing catalog listing)
    {as : List (Located ItemReference)}
    (hScan :
      Scan (firstOf (listing.map phrase)) prose c.position as) :
    Mentions catalog.names.get? c as := by
  induction as generalizing c with
  | nil =>
      refine .nil fun d hLe => hListing.run_eq_none_iff.mp ?_
      exact hScan.gaps d hLe (List.forall_mem_nil _)
  | cons a more ih =>
      rcases hScan.readAt a (by simp) with ⟨s, r, hRun, hSpan⟩
      have hLe : c.position ≤ a.span.start := hScan.inOrder.1
      have hMore := hScan.tail
      obtain ⟨reference, span⟩ := a
      cases hSpan
      rcases hListing.run_eq_some_iff.mp hRun with
        ⟨name, kind, rfl, hLongest⟩
      refine .cons hLe ?_ hLongest (ih hMore)
      intro d hFrom hTo
      exact hListing.run_eq_none_iff.mp
        (hScan.run_eq_none hFrom hTo)

/- The mentions in a text are a scan of it. -/
theorem scan_of_mentions
    (hListing : Listing catalog listing)
    {as : List (Located ItemReference)}
    (hMentions : Mentions catalog.names.get? c as) :
    Scan (firstOf (listing.map phrase)) prose c.position as := by
  induction hMentions with
  | @nil c hFree =>
      refine ⟨c.position_le, List.forall_mem_nil _, ?_⟩
      intro d hLe _
      exact hListing.run_eq_none_iff.mpr (hFree d hLe)
  | @cons c s r name kind more hLe hFree hLongest hMore ih =>
      have hRun :
          (firstOf (listing.map phrase)).run s =
            some (⟨name, some kind⟩, r) :=
        hListing.run_eq_some_iff.mpr ⟨name, kind, rfl, hLongest⟩
      refine
        ⟨⟨hLe, lt_of_longest hLongest, ih.inOrder⟩,
          List.forall_mem_cons.mpr ⟨⟨s, r, hRun, rfl⟩, ih.readAt⟩,
          ?_⟩
      intro d hFrom hOutside
      rw [List.forall_mem_cons] at hOutside
      rcases hOutside.1 with hBefore | hBehind
      · exact hListing.run_eq_none_iff.mpr (hFree d hFrom hBefore)
      · exact ih.gaps d hBehind hOutside.2

/- From every listing the same is found: the mentions. -/
theorem allIn_eq_iff_mentions
    (hListing : Listing catalog listing)
    {as : List (Located ItemReference)} :
    (firstOf (listing.map phrase)).allIn prose = as ↔
      Mentions catalog.names.get? (Cursor.start prose) as := by
  have hScan :
      Scan (firstOf (listing.map phrase)) prose 0
        ((firstOf (listing.map phrase)).allIn prose) := by
    apply scan_occurrences _ (Cursor.start prose)
    intro c r reference hRun
    rcases hListing.run_eq_some_iff.mp hRun with
      ⟨name, kind, -, hLongest⟩
    exact lt_of_longest hLongest
  constructor
  · rintro rfl
    exact hListing.mentions_of_scan hScan
  · intro hMentions
    exact hScan.eq (hListing.scan_of_mentions hMentions)

end Listing

------------------------------------------------------------
-- What a Catalog Finds
------------------------------------------------------------

theorem listing_longestFirst (catalog : Catalog) :
    Listing catalog catalog.longestFirst := by
  refine ⟨List.mergeSort_perm _ _, ?_⟩
  have hOrder :=
    @List.pairwise_mergeSort (String × ItemKind)
      (fun a b => b.1.length ≤ a.1.length)
      (fun a b d hab hbd => ?_) (fun a b => ?_)
      catalog.names.entries
  · exact hOrder.imp of_decide_eq_true
  · rw [decide_eq_true_eq] at hab hbd ⊢
    exact Nat.le_trans hbd hab
  · rw [Bool.or_eq_true, decide_eq_true_eq, decide_eq_true_eq]
    exact Nat.le_total ..

/- Longer names come first, and those of one length in order. -/
def comparePhrases (a b : String × ItemKind) : Ordering :=
  (compare b.1.length a.1.length).then (compare a.1 b.1)

instance : Std.TransCmp comparePhrases := by
  have hLength :=
    @Std.TransCmp.opposite _
      (compareOn fun e : String × ItemKind => e.1.length) _
  exact inferInstanceAs
    (Std.TransCmp
      (compareLex
        (fun a b =>
          compareOn (fun e : String × ItemKind => e.1.length) b a)
        (compareOn Prod.fst)))

/- The names in any order are a listing once they are sorted. -/
theorem listing_mergeSort
    {catalog : Catalog}
    {entries : List (String × ItemKind)}
    (hPerm : entries.Perm catalog.names.entries) :
    Listing catalog
      (entries.mergeSort fun a b => (comparePhrases a b).isLE) := by
  refine ⟨(List.mergeSort_perm _ _).trans hPerm, ?_⟩
  have hOrder :=
    @List.pairwise_mergeSort (String × ItemKind)
      (fun a b => (comparePhrases a b).isLE)
      (fun _ _ _ => Std.TransCmp.isLE_trans) (fun a b => ?_) entries
  · refine hOrder.imp fun hFirst => ?_
    rw [comparePhrases, Ordering.isLE_then_iff_and] at hFirst
    exact Nat.isLE_compare.mp hFirst.1
  · rw [@Std.OrientedCmp.eq_swap _ comparePhrases _ b a]
    cases comparePhrases a b with
    | lt | eq | gt => rfl

/- What a catalog finds are the mentions of its names. -/
theorem allIn_eq_iff_mentions
    (catalog : Catalog)
    {as : List (Located ItemReference)} :
    catalog.allIn prose = as ↔
      Mentions catalog.names.get? (Cursor.start prose) as := by
  rw [← catalog.listing_longestFirst.allIn_eq_iff_mentions, allIn]
  split
  · rename_i hEmpty
    -- Without names there are no mentions.
    have hNone :
        (firstOf (catalog.longestFirst.map phrase)).allIn prose =
          [] := by
      rw [catalog.listing_longestFirst.allIn_eq_iff_mentions]
      refine .nil fun d _ name r _ => ?_
      rw [OrderedMap.get?, List.isEmpty_iff.mp hEmpty]
      rfl
    rw [hNone]
  · rfl

/-
  A catalog finds the mentions of the names that were registered,
  each of them known as what it was registered as last. It finds
  the same if the same names were registered in another way, and
  if its names are listed in any order before they are sorted.
-/
theorem allIn_longest_mentions
    (registrations : List (String × ItemKind))
    (prose : Prose) :
    (∀ as,
      (ofList registrations).allIn prose = as ↔
        Mentions (lastKind? registrations) (Cursor.start prose)
          as) ∧
    (∀ others,
      (∀ name, lastKind? others name = lastKind? registrations name) →
        (ofList others).allIn prose =
          (ofList registrations).allIn prose) ∧
    ∀ entries : List (String × ItemKind),
      entries.Perm (ofList registrations).names.entries →
        (firstOf
            ((entries.mergeSort fun a b =>
              (comparePhrases a b).isLE).map phrase)).allIn prose =
          (ofList registrations).allIn prose := by
  have hKnown (registrations : List (String × ItemKind)) :
      (ofList registrations).names.get? = lastKind? registrations :=
    funext (get?_ofList registrations)
  have hMentions
      (registrations : List (String × ItemKind))
      (as : List (Located ItemReference)) :
      (ofList registrations).allIn prose = as ↔
        Mentions (lastKind? registrations) (Cursor.start prose)
          as := by
    rw [allIn_eq_iff_mentions, hKnown]
  refine ⟨hMentions registrations, ?_, ?_⟩
  · intro others hSame
    rw [hMentions others, funext hSame, ← hMentions]
  · intro entries hPerm
    rw [(listing_mergeSort hPerm).allIn_eq_iff_mentions,
      ← allIn_eq_iff_mentions]

/- The longer of two names, and the last meaning of the other. -/
theorem allIn_longest_mentions_cures :
    let registrations : List (String × ItemKind) :=
      [("Cure", .spell), ("Cure Wounds ", .spell), ("cure", .item)]
    let others : List (String × ItemKind) :=
      [("cure wounds", .item), ("CURE", .item),
        ("cure wounds", .spell)]
    let entries : List (String × ItemKind) :=
      [("cure", .item), ("cure wounds", .spell)]
    let prose := Prose.folded "Cures: Cure Wounds, cure"
    let found : List (Located ItemReference) :=
      [⟨⟨"cure wounds", some .spell⟩, ⟨7, 18⟩⟩,
        ⟨⟨"cure", some .item⟩, ⟨20, 24⟩⟩]
    Mentions (lastKind? registrations) (Cursor.start prose) found ∧
      ((∀ name,
          lastKind? others name = lastKind? registrations name) ∧
        (ofList others).allIn prose = found) ∧
      entries.Perm (ofList registrations).names.entries ∧
        (firstOf
            ((entries.mergeSort fun a b =>
              (comparePhrases a b).isLE).map phrase)).allIn prose =
          found := by
  intro registrations others entries prose found
  have hListing :
      Listing (ofList registrations) entries.reverse :=
    ⟨by decide +kernel, by decide +kernel⟩
  have hRun :
      (firstOf (entries.reverse.map phrase)).allIn prose = found := by
    decide +kernel
  have hFound : (ofList registrations).allIn prose = found := by
    rw [allIn_eq_iff_mentions, ← hListing.allIn_eq_iff_mentions]
    exact hRun
  have hSame (name : String) :
      lastKind? others name = lastKind? registrations name := by
    have hCure : Text.lowercase (Text.trim "Cure") = "cure" := by
      decide +kernel
    have hCures :
        Text.lowercase (Text.trim "Cure Wounds ") =
          "cure wounds" := by
      decide +kernel
    have hCurrent : Text.lowercase (Text.trim "cure") = "cure" := by
      decide +kernel
    have hCapital : Text.lowercase (Text.trim "CURE") = "cure" := by
      decide +kernel
    have hWounds :
        Text.lowercase (Text.trim "cure wounds") =
          "cure wounds" := by
      decide +kernel
    simp only [lastKind?, others, registrations,
      List.reverse_cons, List.reverse_nil, List.nil_append,
      List.cons_append, List.find?_cons, List.find?_nil, hCure,
      hCures, hCurrent, hCapital, hWounds]
    by_cases hName : "cure" = name
    · subst hName
      decide
    · by_cases hLong : "cure wounds" = name
      · subst hLong
        decide
      · simp [hName, hLong]
  have hPerm :
      entries.Perm (ofList registrations).names.entries := by
    decide +kernel
  rcases allIn_longest_mentions registrations prose with
    ⟨hMentions, hOthers, hEntries⟩
  exact
    ⟨(hMentions found).mp hFound,
      ⟨hSame, (hOthers others hSame).trans hFound⟩,
      hPerm, (hEntries entries hPerm).trans hFound⟩

end CreatureProse.Catalog
