import CreatureProse.Proofs.Parser.Character

/-
  Numerals stand for the value of their digits, and every number
  of 32 bits is read from the numeral that it is shown as. From
  inside of a numeral its last digits are read.

  Main declarations:
    * `Parser.numeral_iff`
    * `Parser.numeral_toString`
    * `Parser.exists_run_number_inside`
-/

namespace CreatureProse

------------------------------------------------------------
-- Digits
------------------------------------------------------------

namespace Text

/- A number is shown in digits, of which there is one at least. -/
theorem isDigit_of_mem_toString
    {n : Nat}
    {a : Char}
    (ha : a ∈ (toString n).toList) :
    a.isDigit = true := by
  rw [Nat.toString_eq_ofList_toDigits, String.toList_ofList] at ha
  exact Nat.isDigit_of_mem_toDigits (by decide) (by decide) ha

theorem toList_toString_ne_nil (n : Nat) :
    (toString n).toList ≠ [] := by
  rw [Nat.toString_eq_ofList_toDigits, String.toList_ofList]
  exact Nat.toDigits_ne_nil

@[simp] theorem digitsValue_toString (n : Nat) :
    digitsValue (toString n).toList = n := by
  rw [Nat.toString_eq_ofList_toDigits, String.toList_ofList]
  exact Nat.ofDigitChars_ten_toDigits

/- A signed number is its sign and then its size. -/
theorem toList_signed (m : Int) :
    (signed m).toList =
      (if m < 0 then '-' else '+') :: (toString m.natAbs).toList := by
  cases m with
  | ofNat n =>
      have hNot : ¬ Int.ofNat n < 0 :=
        Int.not_lt.mpr (Int.natCast_nonneg n)
      rw [signed, if_neg hNot, if_neg hNot, String.toList_append]
      rfl
  | negSucc n =>
      have hNeg := Int.negSucc_lt_zero n
      rw [signed, if_pos hNeg, if_pos hNeg]
      change ("-" ++ toString (n + 1)).toList = _
      rw [String.toList_append]
      rfl

/- The last digits alone have no greater value. -/
theorem digitsValue_le_append (before digits : List Char) :
    digitsValue digits ≤ digitsValue (before ++ digits) := by
  calc
    digitsValue digits
      ≤ 10 ^ digits.length * digitsValue before +
          digitsValue digits := Nat.le_add_left _ _
    _ = Nat.ofDigitChars 10 digits (digitsValue before) :=
      Nat.ofDigitChars_eq_ofDigitChars_zero.symm
    _ = digitsValue (before ++ digits) :=
      (Nat.ofDigitChars_append 0).symm

/- Digits are read as their value, up to the greatest number. -/
theorem unsigned32?_of_digits
    {digits : List Char}
    (hNe : digits ≠ [])
    (hDigits : ∀ a ∈ digits, a.isDigit = true) :
    unsigned32? (String.ofList digits) =
      fit32? (digitsValue digits) := by
  have hAll : digits.all Char.isDigit = true :=
    List.all_eq_true.mpr hDigits
  have hEmpty : digits.isEmpty = false :=
    List.isEmpty_eq_false_iff.mpr hNe
  rw [unsigned32?, String.toList_ofList]
  split
  · exact absurd (hDigits '+' (by simp)) (by decide)
  · rw [natural?, hEmpty, hAll]
    rfl

/- Digits and signs have no case. -/
theorem foldChar_of_isDigit
    {a : Char}
    (hDigit : a.isDigit = true) :
    foldChar a = a := by
  rw [Char.isDigit, Bool.and_eq_true, decide_eq_true_eq,
    decide_eq_true_eq] at hDigit
  have hHigh : a.toNat ≤ 57 := hDigit.2
  have hLower : a.toLower = a := by
    apply dif_neg
    rintro ⟨hUpper, -⟩
    have hLow : 65 ≤ a.toNat := hUpper
    omega
  rw [foldChar, lowercaseOf, if_pos (by omega), hLower]

theorem map_foldChar_toString (n : Nat) :
    (toString n).toList.map foldChar = (toString n).toList := by
  rw [List.map_congr_left fun a ha =>
    foldChar_of_isDigit (isDigit_of_mem_toString ha)]
  exact List.map_id' _

theorem map_foldChar_signed (m : Int) :
    (signed m).toList.map foldChar = (signed m).toList := by
  rw [toList_signed, List.map_cons, map_foldChar_toString]
  split
  · rfl
  · rfl

end Text

------------------------------------------------------------
-- Numerals
------------------------------------------------------------

namespace Parser

theorem numeral_iff
    {digits : List Char}
    {n : UInt32} :
    Numeral digits n ↔
      digits ≠ [] ∧ (∀ a ∈ digits, a.isDigit = true) ∧
        Text.digitsValue digits = n.toNat := by
  have hValue (m : Nat) :
      Text.fit32? m = some n ↔ m = n.toNat := by
    have hLt := n.toNat_lt
    unfold Text.fit32?
    split
    · rw [Option.some.injEq, ← UInt32.toNat_inj,
        UInt32.toNat_ofNat_of_lt' (by assumption)]
    · simp only [reduceCtorEq, false_iff]
      omega
  constructor
  · rintro ⟨hNe, hDigits, hSome⟩
    rw [Text.unsigned32?_of_digits hNe hDigits, hValue] at hSome
    exact ⟨hNe, hDigits, hSome⟩
  · rintro ⟨hNe, hDigits, hEq⟩
    refine ⟨hNe, hDigits, ?_⟩
    rw [Text.unsigned32?_of_digits hNe hDigits, hValue]
    exact hEq

theorem numeral_toString (n : UInt32) :
    Numeral (toString n.toNat).toList n :=
  numeral_iff.mpr
    ⟨Text.toList_toString_ne_nil _,
      fun _ ha => Text.isDigit_of_mem_toString ha,
      Text.digitsValue_toString _⟩

/- Inside of a number its last digits are read, to the same end. -/
theorem exists_run_number_inside
    {prose : Prose}
    {c d r : Cursor prose}
    {n : UInt32}
    (hRun : number.run c = some (n, r))
    (hFrom : c.position ≤ d.position)
    (hTo : d.position < r.position) :
    ∃ last, last.toNat ≤ n.toNat ∧
      number.run d = some (last, r) := by
  rcases run_number_eq_some.mp hRun with
    ⟨digits, hDigits, hAhead, hNext⟩
  rcases numeral_iff.mp hDigits with ⟨-, hAll, hValue⟩
  rcases Cursor.exists_suffix_of_position_lt hAhead hFrom hTo with
    ⟨inner, hNe, ⟨before, rfl⟩, hInner⟩
  have hLe := Text.digitsValue_le_append before inner
  rw [hValue] at hLe
  have hSize :
      (UInt32.ofNat (Text.digitsValue inner)).toNat =
        Text.digitsValue inner :=
    UInt32.toNat_ofNat_of_lt' (Nat.lt_of_le_of_lt hLe n.toNat_lt)
  refine ⟨.ofNat (Text.digitsValue inner), by rwa [hSize], ?_⟩
  refine run_number_eq_some.mpr ⟨inner, ?_, hInner, hNext⟩
  exact numeral_iff.mpr
    ⟨hNe, (List.forall_mem_append.mp hAll).2, hSize.symm⟩

end Parser

end CreatureProse
