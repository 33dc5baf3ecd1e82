import CreatureProse.Prose.Cursor

/-
  Texts that are folded character by character, and put together
  of others. A text of the first 128 characters is folded to its
  lowercase form.

  Main declarations:
    * `Text.folded`
    * `Text.toList_intercalate`
    * `Text.folded_intercalate`
    * `Text.toList_lowercase`
-/

namespace CreatureProse.Text

------------------------------------------------------------
-- Joined Texts
------------------------------------------------------------

/- The characters of a text, each of them folded. -/
def folded (s : String) : List Char :=
  s.toList.map foldChar

theorem folded_append
    (s t : String) :
    folded (s ++ t) = folded s ++ folded t := by
  rw [folded, String.toList_append, List.map_append]
  rfl

theorem length_folded (s : String) :
    (folded s).length = s.length := by
  rw [folded, List.length_map, String.length_toList]

/- After the first text each has the separator in front of it. -/
theorem toList_intercalate
    (separator first : String)
    (more : List String) :
    (separator.intercalate (first :: more)).toList =
      first.toList ++
        more.flatMap fun s => separator.toList ++ s.toList := by
  induction more generalizing first with
  | nil => simp
  | cons s more ih =>
      rw [String.intercalate_cons_cons, String.toList_append,
        String.toList_append, ih, List.flatMap_cons]
      simp only [List.append_assoc]

theorem folded_intercalate
    (separator first : String)
    (more : List String) :
    folded (separator.intercalate (first :: more)) =
      folded first ++
        more.flatMap fun s => folded separator ++ folded s := by
  rw [folded, toList_intercalate, List.map_append,
    List.map_flatMap]
  simp only [List.map_append]
  rfl

------------------------------------------------------------
-- The First 128 Characters
------------------------------------------------------------

/- Whether a character is among the first 128. -/
def isAscii (a : Char) : Bool :=
  decide (a.toNat < 128)

/- What holds of each of the first 128 is found out from them. -/
theorem forall_isAscii
    (accept : Char → Bool)
    (hAll :
      (List.range 128).all (fun n => accept (Char.ofNat n)) = true)
    {a : Char}
    (hAscii : isAscii a = true) :
    accept a = true := by
  have hLt : a.toNat < 128 := of_decide_eq_true hAscii
  have hMem : a.toNat ∈ List.range 128 := List.mem_range.mpr hLt
  have hAccept := List.all_eq_true.mp hAll a.toNat hMem
  rwa [Char.ofNat_toNat] at hAccept

/- The capital sigma alone depends on what is around it. -/
theorem lowercaseFrom_eq_map
    {cs : List Char}
    (hEach : ∀ a ∈ cs, a ≠ 'Σ' ∧ lowercaseOf a = [foldChar a])
    (before : List Char) :
    lowercaseFrom before cs = cs.map foldChar := by
  induction cs generalizing before with
  | nil => rfl
  | cons a rest ih =>
      rw [List.forall_mem_cons] at hEach
      rw [lowercaseFrom, if_neg hEach.1.1, hEach.1.2, ih hEach.2]
      rfl

theorem lowercaseOf_of_isAscii
    {a : Char}
    (hAscii : isAscii a = true) :
    a ≠ 'Σ' ∧ lowercaseOf a = [foldChar a] := by
  have hLt : a.toNat < 128 := of_decide_eq_true hAscii
  constructor
  · rintro rfl
    exact absurd hLt (by decide)
  · rw [foldChar, lowercaseOf, if_pos hLt]

theorem toList_lowercase
    {s : String}
    (hAscii : ∀ a ∈ s.toList, isAscii a = true) :
    (lowercase s).toList = folded s := by
  rw [lowercase, String.toList_ofList, folded]
  exact lowercaseFrom_eq_map
    (fun a ha => lowercaseOf_of_isAscii (hAscii a ha)) []

end CreatureProse.Text
