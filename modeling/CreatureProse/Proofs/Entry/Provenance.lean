import CreatureProse.Entry.Action
import CreatureProse.Entry.Feature
import CreatureProse.Proofs.Dice.Grammar
import CreatureProse.Proofs.LimitedUse.Grammar
import CreatureProse.Proofs.Reference.Catalog
import CreatureProse.Proofs.Spellcasting.Grammar

/-
  Whatever is read in a feature or an action points back at the
  text it came from: the limit at the name, and the rolls, names
  and spells at the description. No name is pointed out twice.

  Main declarations:
    * `Provenance`
    * `mem_inProse`
    * `listedSpells_spec`
    * `provenance`
-/

namespace CreatureProse

open Annotation (inProse listedSpells)

------------------------------------------------------------
-- What Spans Cover
------------------------------------------------------------

/- What a span covers in the folded form of a text. -/
def foldedText
    (span : Span)
    (source : String) : String :=
  span.text (Prose.folded source).toString

/- A span that is not empty and ends inside a text. -/
def Covers
    (span : Span)
    (source : String) : Prop :=
  span.start < span.stop ∧ span.stop ≤ source.length

/- Whether a name is pointed out. -/
def pointsOutName (a : Located Annotation) : Bool :=
  a.value.reference?.isSome

/-
  A limit, a spellcasting and annotations of a description that
  point back at the name and the description they were read in;
  `others` are the annotations that are no listed spells.
-/
structure Provenance
    (name description : String)
    (limit : Option (Located LimitedUse))
    (spellcasting : Option Spellcasting)
    (others annotations : List (Located Annotation)) :
    Prop where
  limit_covers : ∀ l ∈ limit, Covers l.span name
  limit_again : ∀ l ∈ limit,
    LimitedUse.inName? (l.span.text name) =
      some ⟨l.value, ⟨0, l.span.stop - l.span.start⟩⟩
  covers : ∀ a ∈ annotations, Covers a.span description
  roll_again : ∀ a ∈ annotations, ∀ e, a.value = .dice e →
    DiceExpression.parser.parse?
        (Prose.ofString (foldedText a.span description)) =
      some (e, "")
  name_text : ∀ a ∈ others, ∀ r, a.value = .reference r →
    foldedText a.span description = r.text
  spell_text : ∀ a ∈ listedSpells spellcasting,
    ∃ r, a.value = .reference r ∧
      collapsed (foldedText a.span description).toList =
        r.text.toList
  apart :
    (annotations.filter pointsOutName).Pairwise
      fun a b => Span.Apart a.span b.span

------------------------------------------------------------
-- Limits
------------------------------------------------------------

theorem size_folded (source : String) :
    (Prose.folded source).size = source.length := by
  rw [Prose.folded, List.size_toArray, List.length_map,
    String.length_toList]

/- A limit stands in the name in which it is found. -/
theorem covers_of_inName?
    {name : String}
    {limit : Located LimitedUse}
    (hFound : LimitedUse.inName? name = some limit) :
    Covers limit.span name := by
  rcases LimitedUse.readAt_of_inName? hFound with
    ⟨s, r, hRun, hSpan⟩
  rcases LimitedUse.written_of_run hRun with
    ⟨cs, hWritten, hAhead⟩
  have hEnd := r.position_le
  rw [size_folded] at hEnd
  rw [hSpan]
  exact
    ⟨Cursor.position_lt_of_ahead_eq hAhead hWritten.ne_nil, hEnd⟩

------------------------------------------------------------
-- Rolls and Names
------------------------------------------------------------

section Description

variable
  {config : Config}
  {prose : Prose}
  {excluded : List Span}
  {a : Located Annotation}

/- What is pointed out is a roll or a name listed nowhere else. -/
theorem mem_inProse
    (hMem : a ∈ inProse config prose excluded) :
    (∃ d ∈ DiceExpression.allIn prose,
        a = d.map Annotation.dice) ∨
      ∃ n ∈ config.catalog.allIn prose,
        (∀ s ∈ excluded, Span.Apart s n.span) ∧
          a = n.map Annotation.reference := by
  rcases List.mem_append.mp hMem with hRoll | hName
  · left
    split at hRoll
    · rcases List.mem_map.mp hRoll with ⟨d, hd, rfl⟩
      exact ⟨d, hd, rfl⟩
    · cases hRoll
  · right
    rcases List.mem_map.mp hName with ⟨n, hn, rfl⟩
    rcases List.mem_filter.mp hn with ⟨hFound, hKept⟩
    refine ⟨n, hFound, ?_, rfl⟩
    intro s hs
    rw [Bool.not_eq_true', List.any_eq_false] at hKept
    exact Bool.eq_false_iff.mpr (hKept s hs)

/- A roll is no name, and a name is one. -/
theorem filter_inProse :
    (inProse config prose excluded).filter
        pointsOutName =
      ((config.catalog.allIn prose).filter fun n =>
        !excluded.any fun span => span.overlaps n.span).map
          fun n => n.map Annotation.reference := by
  have hRolls :
      (if config.annotateDice then
          (DiceExpression.allIn prose).map fun d =>
            d.map Annotation.dice
        else
          []).filter pointsOutName = [] := by
    rw [List.filter_eq_nil_iff]
    intro b hb
    split at hb
    · rcases List.mem_map.mp hb with ⟨d, -, rfl⟩
      exact Bool.false_ne_true
    · cases hb
  unfold inProse
  dsimp only
  rw [List.filter_append, hRolls, List.nil_append,
    List.filter_eq_self]
  intro b hb
  rcases List.mem_map.mp hb with ⟨n, -, rfl⟩
  rfl

end Description

/- Names that are pointed out stand apart. -/
theorem pairwise_inProse
    (config : Config)
    (prose : Prose)
    (excluded : List Span) :
    ((inProse config prose excluded).filter
        pointsOutName).Pairwise
      fun a b => Span.Apart a.span b.span := by
  rw [filter_inProse, List.pairwise_map]
  refine List.Pairwise.filter _ ?_
  exact List.pairwise_map.mp
    (config.catalog.allIn_inOrder prose).pairwise_apart

------------------------------------------------------------
-- Listed Spells
------------------------------------------------------------

section Spells

variable
  {name description : String}
  {a : Located Annotation}

/- A listed spell stands where its name is read. -/
theorem listedSpells_spec
    (hMem : a ∈ listedSpells
      (Spellcasting.ofText? name description)) :
    Covers a.span description ∧
      ∃ r, a.value = .reference r ∧
        collapsed (foldedText a.span description).toList =
          r.text.toList := by
  cases hFound : Spellcasting.ofText? name description with
  | none =>
      rw [hFound] at hMem
      cases hMem
  | some s =>
      rw [hFound] at hMem
      rcases List.mem_map.mp hMem with ⟨spell, hSpell, rfl⟩
      rcases Spellcasting.exists_fragments hFound with
        ⟨fragments, r, hSpells, hNames⟩
      rw [hSpells] at hSpell
      rcases Spellcasting.exists_name_of_mem_spells hSpell with
        ⟨listed, hListed, rfl⟩
      have hNamed := hNames.1 listed hListed
      have hInside :=
        hNames.2.of_mem (List.mem_map_of_mem hListed)
      have hEnd := r.position_le
      rw [size_folded] at hEnd
      exact
        ⟨⟨hNamed.nonempty, Nat.le_trans hInside.2.2 hEnd⟩,
          .spell listed.value, rfl, hNamed.text⟩

/- Listed spells stand apart. -/
theorem pairwise_listedSpells
    (name description : String) :
    (listedSpells
        (Spellcasting.ofText? name description)).Pairwise
      fun a b => Span.Apart a.span b.span := by
  cases hFound : Spellcasting.ofText? name description with
  | none => exact List.Pairwise.nil
  | some s =>
      rcases Spellcasting.exists_fragments hFound with
        ⟨fragments, r, hSpells, hNames⟩
      rw [listedSpells, List.pairwise_map, hSpells]
      apply Spellcasting.pairwise_spells Span.Apart.symm
      rw [List.pairwise_map]
      exact List.pairwise_map.mp hNames.2.pairwise_apart

/- Each listed spell has its span among those listed. -/
theorem mem_listedSpans
    {spellcasting : Option Spellcasting}
    (hMem : a ∈ listedSpells spellcasting) :
    pointsOutName a = true ∧
      a.span ∈ Spellcasting.listedSpans spellcasting := by
  cases spellcasting with
  | none => cases hMem
  | some s =>
      rcases List.mem_map.mp hMem with ⟨spell, hSpell, rfl⟩
      exact ⟨rfl, List.mem_map_of_mem hSpell⟩

end Spells

------------------------------------------------------------
-- Descriptions
------------------------------------------------------------

/- What a feature and an action have in common. -/
theorem provenance_ofText
    (config : Config)
    (name description : String) :
    Provenance name description (LimitedUse.inName? name)
      (Spellcasting.ofText? name description)
      (inProse config (Prose.folded description)
        (Spellcasting.listedSpans
          (Spellcasting.ofText? name description)))
      (inProse config (Prose.folded description)
          (Spellcasting.listedSpans
            (Spellcasting.ofText? name description))
        ++ listedSpells
          (Spellcasting.ofText? name description)) where
  limit_covers l hl := covers_of_inName? hl
  limit_again l hl := LimitedUse.inName?_text hl
  covers a ha := by
    have hSize := size_folded description
    rcases List.mem_append.mp ha with hOther | hSpell
    · rcases mem_inProse hOther with
        ⟨d, hd, rfl⟩ | ⟨n, hn, -, rfl⟩
      · have hInside :=
          (Parser.allIn_inOrder DiceExpression.lt_of_run).of_mem
            (List.mem_map_of_mem hd)
        exact ⟨hInside.2.1, by rw [← hSize]; exact hInside.2.2⟩
      · have hInside :=
          (config.catalog.allIn_inOrder _).of_mem
            (List.mem_map_of_mem hn)
        exact ⟨hInside.2.1, by rw [← hSize]; exact hInside.2.2⟩
    · exact (listedSpells_spec hSpell).1
  roll_again a ha e he := by
    rcases List.mem_append.mp ha with hOther | hSpell
    · rcases mem_inProse hOther with
        ⟨d, hd, rfl⟩ | ⟨n, hn, -, rfl⟩
      · cases he
        exact DiceExpression.parse?_text_of_mem_allIn hd
      · cases he
    · rcases (listedSpells_spec hSpell).2 with ⟨r, hr, -⟩
      rw [hr] at he
      cases he
  name_text a ha r hr := by
    rcases mem_inProse ha with ⟨d, hd, rfl⟩ | ⟨n, hn, -, rfl⟩
    · cases hr
    · cases hr
      exact Catalog.text_of_mem_allIn hn
  spell_text a ha := (listedSpells_spec ha).2
  apart := by
    rw [List.filter_append, List.pairwise_append]
    refine ⟨pairwise_inProse .., ?_, ?_⟩
    · exact (pairwise_listedSpells name description).filter _
    · intro a ha b hb
      rcases List.mem_filter.mp ha with ⟨hOther, hName⟩
      rcases List.mem_filter.mp hb with ⟨hSpell, -⟩
      rcases mem_inProse hOther with
        ⟨d, hd, rfl⟩ | ⟨n, hn, hApart, rfl⟩
      · cases hName
      · exact (hApart _ (mem_listedSpans hSpell).2).symm

/-
  Whatever is read in a name and a description under any
  configuration points back at the text it came from, both for a
  feature and for an action.
-/
theorem provenance
    (config : Config)
    (name description : String) :
    let feature :=
      FeatureReading.ofFeature config ⟨name, description⟩
    Provenance name description feature.limitedUse
        feature.spellcasting feature.annotations
        feature.descriptionAnnotations ∧
      ∀ action,
        ActionReading.ofAction? config ⟨name, description⟩ =
            some action →
          Provenance name description action.limitedUse
            action.spellcasting action.annotations
            action.descriptionAnnotations := by
  have hRead := provenance_ofText config name description
  dsimp only [FeatureReading.ofFeature,
    FeatureReading.descriptionAnnotations,
    ActionReading.ofAction?]
  refine ⟨hRead, ?_⟩
  intro action hAction
  split at hAction
  · cases hAction
  · cases hAction
    dsimp only [ActionReading.descriptionAnnotations]
    exact hRead

/- A configuration with rolls and one name. -/
def shieldBearing : Config where
  vocabulary := .empty
  catalog := .ofList [("Shield", .item)]
  annotateDice := true

/- An action with a limit, two spells, a name and a roll. -/
def wardingChant : CreatureAction where
  name := "Innate Spellcasting (1/Day)"
  description := "3/day each: light, sleep. A shield, 1d4."

/- The roll, the name and both spells are pointed out. -/
theorem provenance_wardingChant :
    ∃ action,
      ActionReading.ofAction? shieldBearing wardingChant =
          some action ∧
        action.limitedUse.isSome = true ∧
        action.descriptionAnnotations.map Located.span =
          [⟨36, 39⟩, ⟨28, 34⟩, ⟨12, 17⟩, ⟨19, 24⟩] ∧
        Provenance wardingChant.name wardingChant.description
          action.limitedUse action.spellcasting
          action.annotations action.descriptionAnnotations := by
  have hRead :
      (ActionReading.ofAction? shieldBearing wardingChant).map
          (fun action =>
            (action.limitedUse.isSome,
              action.descriptionAnnotations.map
                Located.span)) =
        some (true,
          [⟨36, 39⟩, ⟨28, 34⟩, ⟨12, 17⟩, ⟨19, 24⟩]) := by
    decide +kernel
  rcases Option.map_eq_some_iff.mp hRead with
    ⟨action, hAction, hParts⟩
  rw [Prod.mk.injEq] at hParts
  exact ⟨action, hAction, hParts.1, hParts.2,
    (provenance shieldBearing wardingChant.name
      wardingChant.description).2 action hAction⟩

end CreatureProse
