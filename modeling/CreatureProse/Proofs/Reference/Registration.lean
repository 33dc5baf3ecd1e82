import CreatureProse.Proofs.Reference.Mention
import CreatureProse.Proofs.Text.Lowercase

/-
  The ways in which a catalog is asked for a name, right after
  the name was registered. It is registered without the blanks
  around it and in its lowercase form. A lookup keeps the
  blanks, and in a text it is looked for as it is folded
  character by character, so that either may miss it.

  Main declarations:
    * `Catalog.lookup?_register`
    * `Catalog.allIn_eq_whole_iff`
    * `Catalog.asked_after_register`
    * `Catalog.not_always_mentioned`
-/

namespace CreatureProse.Catalog

open CreatureProse.Parser

variable {prose : Prose}

------------------------------------------------------------
-- Lookups
------------------------------------------------------------

/- A lookup in lower case finds what was registered last. -/
theorem lookup?_register
    (catalog : Catalog)
    {written : String}
    (kind : ItemKind)
    (hNamed : Text.trim written ≠ "")
    (other : String) :
    (catalog.register written kind).lookup? other =
      if Text.lowercase other =
          Text.lowercase (Text.trim written) then
        some kind
      else
        catalog.lookup? other := by
  rw [lookup?, get?_register]
  by_cases hKey :
      Text.lowercase other = Text.lowercase (Text.trim written)
  · rw [if_pos hKey, if_pos]
    refine ⟨hKey, ?_⟩
    rw [hKey]
    exact Text.lowercase_ne_empty hNamed
  · rw [if_neg hKey, if_neg fun hBoth => hKey hBoth.1]
    rfl

/- The name is found as it was written if it has no blanks. -/
theorem lookup?_register_self_iff
    (catalog : Catalog)
    {written : String}
    {kind : ItemKind}
    (hNamed : Text.trim written ≠ "") :
    (catalog.register written kind).lookup? written = some kind ↔
      Text.trim written = written ∨
        catalog.lookup? written = some kind := by
  rw [catalog.lookup?_register kind hNamed,
    ← Text.lowercase_trim_eq_iff]
  by_cases hKey :
      Text.lowercase written = Text.lowercase (Text.trim written)
  · rw [if_pos hKey]
    exact iff_of_true rfl (.inl hKey)
  · rw [if_neg hKey, or_iff_right hKey]

------------------------------------------------------------
-- Whole Texts
------------------------------------------------------------

/- A text stands between its start and its end. -/
theorem standsAt_start
    {name : String} :
    StandsAt name (Cursor.start prose) (Cursor.stop prose) ↔
      name = prose.toString := by
  constructor
  · intro hStands
    have hText := hStands.text
    rw [Cursor.ahead_start, Cursor.ahead_stop, List.append_nil]
      at hText
    rw [Prose.toString, hText, String.ofList_toList]
  · rintro rfl
    refine ⟨?_, ?_, ?_⟩
    · rw [Cursor.ahead_start, Cursor.ahead_stop, List.append_nil,
        Prose.toString, String.toList_ofList]
    · rintro a ⟨⟩
    · rw [Cursor.ahead_stop]
      exact notNext_nil _

/- No name stands at the end of a text. -/
theorem free_of_stop_le
    (catalog : Catalog)
    {c : Cursor prose}
    (hLe : (Cursor.stop prose).position ≤ c.position) :
    Free catalog.names.get? c := by
  intro name r hStands
  have hStop : c = Cursor.stop prose :=
    Cursor.eq_of_position_eq (Nat.le_antisymm c.position_le hLe)
  have hText := hStands.text
  rw [hStop, Cursor.ahead_stop, List.nil_eq_append_iff] at hText
  rw [String.toList_eq_nil_iff.mp hText.1]
  exact catalog.get?_empty

/- A whole text is mentioned if it is the name itself. -/
theorem allIn_eq_whole_iff
    (catalog : Catalog)
    {text : String}
    {kind : ItemKind} :
    catalog.allIn prose =
        [⟨⟨text, some kind⟩, ⟨0, prose.size⟩⟩] ↔
      text = prose.toString ∧
        catalog.names.get? text = some kind := by
  rw [allIn_eq_iff_mentions]
  constructor
  · intro hMentions
    generalize hSpan : Span.mk 0 prose.size = span at hMentions
    cases hMentions with
    | @cons _ s r _ _ _ _ _ hLongest _ =>
        rw [Span.mk.injEq] at hSpan
        have hStart : s = Cursor.start prose :=
          Cursor.eq_of_position_eq hSpan.1.symm
        have hStop : r = Cursor.stop prose :=
          Cursor.eq_of_position_eq hSpan.2.symm
        subst hStart hStop
        exact
          ⟨standsAt_start.mp hLongest.stands, hLongest.known⟩
  · rintro ⟨hText, hKnown⟩
    have hStands := standsAt_start.mpr hText
    refine .cons (s := Cursor.start prose) (r := Cursor.stop prose)
      (Nat.le_refl _) ?_ ⟨hKnown, hStands, ?_⟩
      (.nil fun d hLe => catalog.free_of_stop_le hLe)
    · intro d hFrom hTo
      exact absurd hTo (Nat.not_lt.mpr hFrom)
    · intro other s hOther _
      have hLength := congrArg List.length
        (hStands.text.symm.trans hOther.text)
      rw [Cursor.ahead_stop, List.append_nil, List.length_append,
        String.length_toList, String.length_toList] at hLength
      omega

------------------------------------------------------------
-- What Was Just Registered
------------------------------------------------------------

theorem toString_folded (s : String) :
    (Prose.folded s).toString = String.ofList (Text.folded s) := by
  rfl

theorem size_folded (s : String) :
    (Prose.folded s).size = s.length :=
  Text.length_folded s

/- The folded name is the key unless it has one of two letters. -/
theorem ofList_folded_eq_iff
    {s : String} :
    String.ofList (Text.folded s) = Text.lowercase s ↔
      'İ' ∉ s.toList ∧ ¬ Text.EndsInSigma [] s.toList := by
  rw [← Text.toList_lowercase_eq_folded_iff,
    ← String.toList_inj, String.toList_ofList, eq_comm]

/-
  A name is mentioned in its own folded text if folding gives
  its lowercase form, or if the folded text is known already.
-/
theorem allIn_register_self_iff
    (catalog : Catalog)
    {written text : String}
    {kind : ItemKind}
    (hNamed : Text.trim written ≠ "") :
    (catalog.register written kind).allIn
          (Prose.folded (Text.trim written)) =
        [⟨⟨text, some kind⟩, ⟨0, (Text.trim written).length⟩⟩] ↔
      text = String.ofList (Text.folded (Text.trim written)) ∧
        (('İ' ∉ (Text.trim written).toList ∧
            ¬ Text.EndsInSigma [] (Text.trim written).toList) ∨
          catalog.names.get? text = some kind) := by
  rw [← size_folded, allIn_eq_whole_iff, toString_folded]
  apply and_congr_right
  rintro rfl
  rw [get?_register, ← ofList_folded_eq_iff]
  by_cases hKey :
      String.ofList (Text.folded (Text.trim written)) =
        Text.lowercase (Text.trim written)
  · have hNe := Text.lowercase_ne_empty hNamed
    rw [if_pos ⟨hKey, by rwa [hKey]⟩]
    exact iff_of_true rfl (.inl hKey)
  · rw [if_neg fun hBoth => hKey hBoth.1, or_iff_right hKey]

/-
  After a name was registered, exactly the lookups of its
  lowercase form have changed. The lookup of the name as it was
  written and the search of its folded text each find it under a
  condition on the name alone, or where it was known before.
-/
theorem asked_after_register
    (catalog : Catalog)
    (written : String)
    (kind : ItemKind)
    (hNamed : Text.trim written ≠ "") :
    (∀ other,
      (catalog.register written kind).lookup? other =
        if Text.lowercase other =
            Text.lowercase (Text.trim written) then
          some kind
        else
          catalog.lookup? other) ∧
    ((catalog.register written kind).lookup? written = some kind ↔
      Text.trim written = written ∨
        catalog.lookup? written = some kind) ∧
    ∀ text,
      (catalog.register written kind).allIn
            (Prose.folded (Text.trim written)) =
          [⟨⟨text, some kind⟩,
            ⟨0, (Text.trim written).length⟩⟩] ↔
        text = String.ofList (Text.folded (Text.trim written)) ∧
          (('İ' ∉ (Text.trim written).toList ∧
              ¬ Text.EndsInSigma [] (Text.trim written).toList) ∨
            catalog.names.get? text = some kind) :=
  ⟨catalog.lookup?_register kind hNamed,
    catalog.lookup?_register_self_iff hNamed,
    fun _ => catalog.allIn_register_self_iff hNamed⟩

/- A name in blanks is missed as it was written. -/
theorem asked_after_register_light :
    let written := " Light "
    let catalog := empty.register written .spell
    Text.trim written ≠ "" ∧
      (catalog.lookup? "LIGHT" = some .spell ∧
        catalog.lookup? written = none) ∧
      catalog.allIn (Prose.folded (Text.trim written)) =
        [⟨⟨"light", some .spell⟩,
          ⟨0, (Text.trim written).length⟩⟩] := by
  intro written catalog
  have hNamed : Text.trim written ≠ "" := by decide +kernel
  rcases asked_after_register empty written .spell hNamed with
    ⟨hOthers, -, hFound⟩
  have hFolds := ofList_folded_eq_iff.mp
    (by decide +kernel :
      String.ofList (Text.folded (Text.trim written)) =
        Text.lowercase (Text.trim written))
  refine ⟨hNamed, ⟨?_, ?_⟩, ?_⟩
  · rw [hOthers, if_pos (by decide +kernel)]
  · rw [hOthers, if_neg (by decide +kernel)]
    rfl
  · exact (hFound _).mpr ⟨by decide +kernel, .inl hFolds⟩

/- A name that ends in a capital sigma is not found. -/
theorem not_always_mentioned :
    ¬ ∀ (catalog : Catalog) (written : String) (kind : ItemKind),
      Text.trim written ≠ "" →
        (catalog.register written kind).lookup? written =
            some kind ∧
          ∃ text,
            (catalog.register written kind).allIn
                (Prose.folded (Text.trim written)) =
              [⟨⟨text, some kind⟩,
                ⟨0, (Text.trim written).length⟩⟩] := by
  intro hAll
  have hNamed : Text.trim "ΟΔΟΣ" ≠ "" := by decide +kernel
  rcases (hAll empty "ΟΔΟΣ" .spell hNamed).2 with ⟨text, hFound⟩
  rw [allIn_register_self_iff _ hNamed] at hFound
  have hCased : Text.casedNext ['Ο', 'Δ', 'Ο'] = true := by
    rw [Text.casedNext_cons, Text.contains_eq_any]
    · decide +kernel
    · rw [Text.contains_eq_any]
      decide +kernel
  have hEnds : Text.EndsInSigma [] (Text.trim "ΟΔΟΣ").toList :=
    ⟨['Ο', 'Δ', 'Ο'], [], by decide +kernel, hCased, rfl⟩
  rcases hFound.2 with hFolds | hKnown
  · exact hFolds.2 hEnds
  · cases hKnown

end CreatureProse.Catalog
