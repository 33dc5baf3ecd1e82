import CreatureProse.Entry.Action
import CreatureProse.Entry.Feature
import CreatureProse.Proofs.Action.Agreement
import CreatureProse.Proofs.Ordered.Map
import CreatureProse.Proofs.Reference.Agreement
import CreatureProse.Proofs.Reference.Registration
import CreatureProse.Proofs.Text.Fold

/-
  What is registered for the reading of stat blocks matters only
  where it is mentioned. A word for a condition that no part of a
  description is a spelling of, or a name that does not occur in
  it, can be added without any effect on what is read there.

  Main declarations:
    * `Config.AgreeOn`
    * `ActionReading.ofAction?_congr`
    * `Registration`
    * `Registration.Absent`
    * `Registration.readings_unchanged`
-/

namespace CreatureProse

------------------------------------------------------------
-- Agreeing Configurations
------------------------------------------------------------

/-
  Two configurations know the same of all that occurs in a text,
  and make the same choice about rolls.
-/
structure Config.AgreeOn
    (text : String)
    (c d : Config) : Prop where
  vocabulary : c.vocabulary.AgreeOn text d.vocabulary
  catalog : c.catalog.AgreeOn text d.catalog
  annotateDice : c.annotateDice = d.annotateDice

namespace Config.AgreeOn

variable {text : String} {b c d : Config}

theorem refl (c : Config) : AgreeOn text c c :=
  ⟨fun _ _ => rfl, fun _ _ => rfl, rfl⟩

theorem trans
    (hFirst : AgreeOn text b c)
    (hSecond : AgreeOn text c d) :
    AgreeOn text b d :=
  ⟨fun word hOccurs =>
      (hFirst.vocabulary word hOccurs).trans
        (hSecond.vocabulary word hOccurs),
    fun name hOccurs =>
      (hFirst.catalog name hOccurs).trans
        (hSecond.catalog name hOccurs),
    hFirst.annotateDice.trans hSecond.annotateDice⟩

end Config.AgreeOn

section Readings

variable
  {name description : String}
  {c d : Config}

/- The same is pointed out under both configurations. -/
theorem Config.AgreeOn.inProse_eq
    {prose : Prose}
    (hSame : c.AgreeOn prose.toString d)
    (excluded : List Span) :
    Annotation.inProse c prose excluded =
      Annotation.inProse d prose excluded := by
  unfold Annotation.inProse
  rw [hSame.annotateDice, Catalog.allIn_congr hSame.catalog]

theorem FeatureReading.ofFeature_congr
    (hSame : c.AgreeOn (Prose.folded description).toString d) :
    ofFeature c ⟨name, description⟩ =
      ofFeature d ⟨name, description⟩ := by
  unfold ofFeature
  dsimp only
  rw [hSame.inProse_eq]

theorem ActionReading.ofAction?_congr
    (hSame : c.AgreeOn (Prose.folded description).toString d) :
    ofAction? c ⟨name, description⟩ =
      ofAction? d ⟨name, description⟩ := by
  unfold ofAction?
  dsimp only
  rw [hSame.inProse_eq,
    Action.ofText?_congr hSame.vocabulary]

end Readings

------------------------------------------------------------
-- Registrations
------------------------------------------------------------

/- A word for a condition, or a name, that is registered. -/
inductive Registration where
| word (spelling : String) (condition : Condition)
| name (written : String) (kind : ItemKind)

namespace Registration

/- The configuration with what is registered. -/
def addTo
    (config : Config) : Registration → Config
| .word spelling condition =>
  { config with
    vocabulary := config.vocabulary.register spelling condition }
| .name written kind =>
  { config with catalog := config.catalog.register written kind }

/-
  A text does not mention what is registered: no part of it has
  the lowercase form of the word, or the form in which the name
  is registered is no part of it. A blank name is not registered
  at all.
-/
def Absent
    (text : String) : Registration → Prop
| .word spelling _ =>
  ∀ part, Occurs part text →
    Text.lowercase part ≠ Text.lowercase spelling
| .name written _ =>
  Text.trim written ≠ "" →
    ¬ Occurs (Text.lowercase (Text.trim written)) text

/- What a text does not mention changes nothing for it. -/
theorem Absent.agreeOn
    {text : String}
    {registration : Registration}
    (hAbsent : registration.Absent text)
    (config : Config) :
    (registration.addTo config).AgreeOn text config := by
  have hSame : config.AgreeOn text config := .refl config
  unfold addTo
  cases registration with
  | word spelling condition =>
      refine ⟨fun part hOccurs => ?_, hSame.catalog, rfl⟩
      change (config.vocabulary.words.insert _ _).get? _ = _
      rw [OrderedMap.get?_insert, if_neg (hAbsent part hOccurs)]
      rfl
  | name written kind =>
      refine ⟨hSame.vocabulary, fun part hOccurs => ?_, rfl⟩
      change (config.catalog.register written kind).names.get? _ = _
      rw [Catalog.get?_register, if_neg]
      rintro ⟨rfl, hNamed⟩
      apply hAbsent _ hOccurs
      intro hBlank
      rw [hBlank] at hNamed
      exact hNamed rfl

/- Any number of them change nothing, either. -/
theorem agreeOn_foldl
    {text : String}
    {added : List Registration}
    (hAbsent : ∀ registration ∈ added, registration.Absent text)
    (config : Config) :
    (added.foldl addTo config).AgreeOn text config := by
  induction added generalizing config with
  | nil => exact .refl config
  | cons registration more ih =>
      rw [List.forall_mem_cons] at hAbsent
      exact (ih hAbsent.2 (registration.addTo config)).trans
        (hAbsent.1.agreeOn config)

/-
  Whatever words and names are added to a configuration, if none
  of them is mentioned in a description, then an action and a
  feature with this description are read as before.
-/
theorem readings_unchanged
    (config : Config)
    (name description : String)
    (added : List Registration)
    (hAbsent : ∀ registration ∈ added,
      registration.Absent (Prose.folded description).toString) :
    ActionReading.ofAction? (added.foldl addTo config)
        ⟨name, description⟩ =
      ActionReading.ofAction? config ⟨name, description⟩ ∧
    FeatureReading.ofFeature (added.foldl addTo config)
        ⟨name, description⟩ =
      FeatureReading.ofFeature config ⟨name, description⟩ := by
  have hSame := agreeOn_foldl hAbsent config
  exact
    ⟨ActionReading.ofAction?_congr hSame,
      FeatureReading.ofFeature_congr hSame⟩

/-
  No part of a text of the first 128 characters has a word as its
  lowercase form if the word does not occur in the folded text.
-/
theorem absent_word_of_isAscii
    {description spelling : String}
    (condition : Condition)
    (hAscii : ∀ a ∈ description.toList, Text.isAscii a = true)
    (hNot : ¬ Occurs (Text.lowercase spelling)
      (Prose.folded description).toString) :
    (word spelling condition).Absent
      (Prose.folded description).toString := by
  intro part hOccurs hSame
  have hFolded (a : Char) (ha : a ∈ part.toList) :
      Text.isAscii a = true ∧ Text.foldChar a = a := by
    have hMem := hOccurs.mem ha
    rw [Catalog.toString_folded, String.toList_ofList,
      Text.folded, List.mem_map] at hMem
    rcases hMem with ⟨b, hb, rfl⟩
    have hFixed := Text.forall_isAscii
      (fun b => Text.isAscii (Text.foldChar b) &&
        Text.foldChar (Text.foldChar b) == Text.foldChar b)
      (by decide +kernel) (hAscii b hb)
    rwa [Bool.and_eq_true, beq_iff_eq] at hFixed
  have hLower : Text.lowercase part = part := by
    rw [← String.toList_inj,
      Text.toList_lowercase fun a ha => (hFolded a ha).1,
      Text.folded, List.map_congr_left fun a ha => (hFolded a ha).2]
    exact List.map_id' _
  rw [← hSame, hLower] at hNot
  exact hNot hOccurs

/- An attack with a condition and a known name. -/
def fadingLash : CreatureAction where
  name := "Lash"
  description :=
    "Melee Attack Roll: +4, reach 5 ft. " ++
      "Hit: The target has the prone condition. Light fades."

/- The standard vocabulary, and a name. -/
def lightKnowing : Config :=
  addTo .standard (.name "Light" .spell)

/-
  A word and two names that are not in the description leave its
  reading alone; a new meaning for a word that is there does not.
-/
theorem readings_unchanged_fadingLash :
    let text := (Prose.folded fadingLash.description).toString
    let added : List Registration :=
      [.word "Cursed" .stunned, .name " Light Fading " .item,
        .name "" .spell]
    let reread : Registration := .word "PRONE" .stunned
    (∀ registration ∈ added, registration.Absent text) ∧
      ActionReading.ofAction? (added.foldl addTo lightKnowing)
          fadingLash =
        ActionReading.ofAction? lightKnowing fadingLash ∧
      ¬ reread.Absent text ∧
      ActionReading.ofAction? (addTo lightKnowing reread)
          fadingLash ≠
        ActionReading.ofAction? lightKnowing fadingLash := by
  intro text added reread
  have hAscii :
      ∀ a ∈ fadingLash.description.toList,
        Text.isAscii a = true :=
    List.all_eq_true.mp (by decide +kernel)
  have hAbsent :
      ∀ registration ∈ added, registration.Absent text := by
    simp only [added, List.forall_mem_cons]
    exact
      ⟨absent_word_of_isAscii .stunned hAscii (by decide +kernel),
        fun _ => by decide +kernel,
        fun hNamed => absurd (by decide +kernel) hNamed,
        List.forall_mem_nil _⟩
  have hSame :=
    readings_unchanged lightKnowing fadingLash.name
      fadingLash.description added hAbsent
  have hChanged :
      ActionReading.ofAction? (addTo lightKnowing reread)
          fadingLash ≠
        ActionReading.ofAction? lightKnowing fadingLash := by
    decide +kernel
  refine ⟨hAbsent, hSame.1, ?_, hChanged⟩
  intro hOther
  exact hOther "prone" (by decide +kernel) (by decide +kernel)

end Registration

end CreatureProse
