import CreatureProse.Creature.Ability
import CreatureProse.Creature.DamageType

/-
  The words that name an ability or a type of damage, in either
  case: no digit stands in them, and none names both.

  Main declarations:
    * `DamageType.isDigit_of_ofName?`
    * `DamageType.ofName?_of_forall_eq_d`
    * `DamageType.ofName?_of_ability`
    * `Ability.isDigit_of_ofName?`
-/

namespace CreatureProse

------------------------------------------------------------
-- Names in Lower Case
------------------------------------------------------------

namespace Text

theorem toNat_of_isDigit
    {a : Char}
    (hDigit : a.isDigit = true) :
    48 ≤ a.toNat ∧ a.toNat ≤ 57 := by
  rw [Char.isDigit, Bool.and_eq_true, decide_eq_true_eq,
    decide_eq_true_eq] at hDigit
  exact hDigit

/- Digits have no other case. -/
theorem lowercaseOf_of_isDigit
    {a : Char}
    (hDigit : a.isDigit = true) :
    lowercaseOf a = [a] := by
  have hRange := toNat_of_isDigit hDigit
  have hSame : a.toLower = a := by
    apply dif_neg
    intro hUpper
    have hLow : 65 ≤ a.toNat := hUpper.1
    omega
  rw [lowercaseOf, if_pos (by omega), hSame]

theorem ne_of_isDigit
    {a b : Char}
    (hDigit : a.isDigit = true)
    (hOther : b.isDigit = false) :
    a ≠ b := by
  rintro rfl
  rw [hDigit] at hOther
  cases hOther

theorem mem_lowercaseFrom_of_isDigit
    {a : Char}
    (hDigit : a.isDigit = true)
    (before : List Char)
    {cs : List Char}
    (hMem : a ∈ cs) :
    a ∈ lowercaseFrom before cs := by
  induction cs generalizing before with
  | nil => cases hMem
  | cons c rest ih =>
      rw [lowercaseFrom]
      rcases List.mem_cons.mp hMem with rfl | hRest
      · have hSigma : a ≠ 'Σ' :=
          ne_of_isDigit hDigit (by decide)
        rw [if_neg hSigma, lowercaseOf_of_isDigit hDigit]
        simp
      · exact List.mem_append_right _ (ih _ hRest)

/- A text of the letter d alone is in lower case. -/
theorem lowercaseFrom_of_forall_eq_d
    (before : List Char)
    {cs : List Char}
    (hAll : ∀ a ∈ cs, a = 'd') :
    lowercaseFrom before cs = cs := by
  induction cs generalizing before with
  | nil => rfl
  | cons c rest ih =>
      rw [lowercaseFrom, ih _ fun a ha => hAll a (by simp [ha]),
        hAll c (by simp), if_neg (by decide)]
      rfl

theorem mem_lowercase_of_isDigit
    {a : Char}
    {s : String}
    (hDigit : a.isDigit = true)
    (hMem : a ∈ s.toList) :
    a ∈ (lowercase s).toList := by
  rw [lowercase, String.toList_ofList]
  exact mem_lowercaseFrom_of_isDigit hDigit [] hMem

end Text

theorem DamageType.lowercase_of_ofName?
    {s : String}
    {t : DamageType}
    (hName : ofName? s = some t) :
    Text.lowercase s = t.name := by
  have hFound := List.find?_some hName
  exact (beq_iff_eq.mp hFound).symm

theorem Ability.lowercase_of_ofName?
    {s : String}
    {a : Ability}
    (hName : ofName? s = some a) :
    Text.lowercase s = a.name ∨
      Text.lowercase s = a.abbreviation := by
  have hFound := List.find?_some hName
  rw [Bool.or_eq_true, beq_iff_eq, beq_iff_eq] at hFound
  exact hFound.imp Eq.symm Eq.symm

/- No digit stands in a damage type. -/
theorem DamageType.isDigit_of_ofName?
    {s : String}
    {t : DamageType}
    (hName : ofName? s = some t) :
    ∀ a ∈ s.toList, a.isDigit = false := by
  intro a ha
  cases hDigit : a.isDigit with
  | false => rfl
  | true =>
      have hMem := Text.mem_lowercase_of_isDigit hDigit ha
      rw [lowercase_of_ofName? hName] at hMem
      have hNone :
          t.name.toList.all (fun b => !b.isDigit) = true := by
        cases t <;> decide
      have hNot := List.all_eq_true.mp hNone a hMem
      rw [hDigit] at hNot
      cases hNot

/- Nor does a digit stand in the name of an ability. -/
theorem Ability.isDigit_of_ofName?
    {s : String}
    {ability : Ability}
    (hName : ofName? s = some ability) :
    ∀ a ∈ s.toList, a.isDigit = false := by
  intro a ha
  cases hDigit : a.isDigit with
  | false => rfl
  | true =>
      have hMem := Text.mem_lowercase_of_isDigit hDigit ha
      have hNone :
          (ability.name ++ ability.abbreviation).toList.all
            (fun b => !b.isDigit) = true := by
        cases ability <;> decide
      have hWritten :
          a ∈ (ability.name ++ ability.abbreviation).toList := by
        rw [String.toList_append, List.mem_append]
        rcases lowercase_of_ofName? hName with hFull | hShort
        · exact .inl (hFull ▸ hMem)
        · exact .inr (hShort ▸ hMem)
      have hNot := List.all_eq_true.mp hNone a hWritten
      rw [hDigit] at hNot
      cases hNot

/- No damage type is written with the letter d alone. -/
theorem DamageType.ofName?_of_forall_eq_d
    {s : String}
    (hAll : ∀ a ∈ s.toList, a = 'd') :
    ofName? s = none := by
  cases hName : ofName? s with
  | none => rfl
  | some t =>
      have hLower := lowercase_of_ofName? hName
      rw [Text.lowercase,
        Text.lowercaseFrom_of_forall_eq_d [] hAll,
        String.ofList_toList] at hLower
      rw [hLower] at hAll
      have hOther : t.name.toList.all (· == 'd') = false := by
        cases t <;> decide
      rw [List.all_eq_true.mpr fun a ha =>
        beq_iff_eq.mpr (hAll a ha)] at hOther
      cases hOther

/- No word is both an ability and a damage type. -/
theorem DamageType.ofName?_of_ability
    {s : String}
    {ability : Ability}
    (hAbility : Ability.ofName? s = some ability) :
    ofName? s = none := by
  cases hName : ofName? s with
  | none => rfl
  | some t =>
      have hType := lowercase_of_ofName? hName
      have hApart :
          t.name ≠ ability.name ∧
            t.name ≠ ability.abbreviation := by
        cases t <;> cases ability <;> decide
      rcases Ability.lowercase_of_ofName? hAbility with
        hFull | hShort
      · exact absurd (hType.symm.trans hFull) hApart.1
      · exact absurd (hType.symm.trans hShort) hApart.2

end CreatureProse
