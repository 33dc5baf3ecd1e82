import CreatureProse.Proofs.LimitedUse.RechargeFaces
import CreatureProse.Proofs.Parser.Numeral

/-
  Usage limits as they are displayed. The text that a limit is
  displayed as is again the text of a limit, and of the same one,
  whatever it was read from. So nothing is lost when a limit is
  displayed, and different limits look different.

  Main declarations:
    * `LimitedUse.facesText_of_le`
    * `LimitedUse.Written.displayed`
    * `LimitedUse.inName?_displayed`
-/

namespace CreatureProse.LimitedUse

open CreatureProse.Parser

------------------------------------------------------------
-- Faces
------------------------------------------------------------

theorem facesBetween_comm (a b : UInt32) :
    facesBetween a b = facesBetween b a := by
  unfold facesBetween
  rw [Nat.min_comm, Nat.max_comm]

/- There are faces from any number to itself or a greater one. -/
theorem least?_facesBetween
    {a b : UInt32}
    (hLe : a.toNat ≤ b.toNat) :
    (facesBetween a b).least? = some a := by
  rw [OrderedSet.least?, members_facesBetween, List.head?_map,
    List.head?_range', Nat.min_eq_left hLe, if_neg (by omega),
    Option.map_some, UInt32.ofNat_toNat]

theorem greatest?_facesBetween
    {a b : UInt32}
    (hLe : a.toNat ≤ b.toNat) :
    (facesBetween a b).greatest? = some b := by
  have hLast : a.toNat + (b.toNat + 1 - a.toNat) - 1 = b.toNat := by
    omega
  rw [OrderedSet.greatest?, members_facesBetween,
    List.getLast?_map, List.getLast?_range', Nat.min_eq_left hLe,
    Nat.max_eq_right hLe, if_neg (by omega), Option.map_some,
    hLast, UInt32.ofNat_toNat]

/- Faces are displayed as their ends, or as the only one. -/
theorem facesText_of_le
    {a b : UInt32}
    (hLe : a.toNat ≤ b.toNat) :
    facesText (facesBetween a b) =
      if a = b then
        toString a.toNat
      else
        toString a.toNat ++ "-" ++ toString b.toNat := by
  rw [facesText, least?_facesBetween hLe,
    greatest?_facesBetween hLe]

/- Displayed faces are written, and as the same faces. -/
theorem faces_displayed_of_le
    {a b : UInt32}
    (hLe : a.toNat ≤ b.toNat) :
    Faces (Text.folded (facesText (facesBetween a b)))
      (facesBetween a b) := by
  rw [facesText_of_le hLe, faces_iff_ends]
  refine ⟨a, b, ?_, rfl⟩
  split
  · rename_i hSame
    rw [← hSame, Text.folded, Text.map_foldChar_toString]
    exact .one (numeral_toString a)
  · rw [Text.folded_append, Text.folded_append, List.append_assoc,
      Text.folded, Text.folded, Text.folded,
      Text.map_foldChar_toString, Text.map_foldChar_toString]
    exact .between (numeral_toString a) (by decide)
      (numeral_toString b)

theorem faces_displayed (a b : UInt32) :
    Faces (Text.folded (facesText (facesBetween a b)))
      (facesBetween a b) := by
  rcases Nat.le_total a.toNat b.toNat with hLe | hLe
  · exact faces_displayed_of_le hLe
  · rw [facesBetween_comm]
    exact faces_displayed_of_le hLe

------------------------------------------------------------
-- Limits
------------------------------------------------------------

/- A number of uses each day is displayed without an each. -/
theorem daily_displayed (n : UInt32) :
    Daily (Text.folded (perDay n).text) n := by
  have hText :
      Text.folded (perDay n).text =
        (toString n.toNat).toList ++ ([] ++ ("/day".toList ++ [])) := by
    change Text.folded (toString n.toNat ++ "/Day") = _
    rw [Text.folded_append, Text.folded, Text.map_foldChar_toString]
    rfl
  rw [hText]
  exact .mk (numeral_toString n) (.inl rfl) (.inl rfl)

/- A limit is displayed as one of the texts of this limit. -/
theorem Written.displayed
    {cs : List Char}
    {limit : LimitedUse}
    (hWritten : Written cs limit) :
    Written (Text.folded limit.text) limit := by
  cases hWritten with
  | daily hDaily => exact .daily (daily_displayed _)
  | recharge hFaces =>
      rename_i faces
      rcases faces_iff_ends.mp hFaces with ⟨m, n, -, rfl⟩
      have hText :
          Text.folded (rechargeOn (facesBetween m n)).text =
            "recharge ".toList ++
              Text.folded (facesText (facesBetween m n)) := by
        change Text.folded
          ("Recharge " ++ facesText (facesBetween m n)) = _
        rw [Text.folded_append]
        rfl
      rw [hText]
      exact .recharge (faces_displayed m n)
  | anyRest => exact .anyRest
  | shortRest => exact .shortRest
  | longRest => exact .longRest

/-
  A limit that was read from any name is read again from the text
  that it is displayed as, which it covers. Only this limit is
  displayed as this text.
-/
theorem inName?_displayed
    (name : String)
    (limit : Located LimitedUse)
    (hFound : inName? name = some limit) :
    inName? limit.value.text =
        some ⟨limit.value, ⟨0, limit.value.text.length⟩⟩ ∧
      ∀ (other : String) (found : Located LimitedUse),
        inName? other = some found →
          found.value.text = limit.value.text →
            found.value = limit.value := by
  have hRead
      {name : String}
      {limit : Located LimitedUse}
      (hFound : inName? name = some limit) :
      inName? limit.value.text =
        some ⟨limit.value, ⟨0, limit.value.text.length⟩⟩ := by
    have hAgain :=
      inName?_of_written (written_of_inName? hFound).displayed rfl
    rwa [Text.length_folded] at hAgain
  refine ⟨hRead hFound, ?_⟩
  intro other found hOther hText
  have hSame := hRead hOther
  rw [hText, hRead hFound, Option.some.injEq,
    Located.mk.injEq] at hSame
  exact hSame.1.symm

/- Faces from the greater to the less end, with a long dash. -/
theorem inName?_displayed_backwards :
    let limit : Located LimitedUse :=
      ⟨rechargeOn (facesBetween 5 6), ⟨6, 18⟩⟩
    let found : Located LimitedUse :=
      ⟨rechargeOn (facesBetween 5 6), ⟨0, 12⟩⟩
    (inName? "Roar (Recharge 6–5)" = some limit ∧
        limit.value.text = "Recharge 5-6") ∧
      inName? "Recharge 5-6" = some found ∧
      inName? "recharge 5-6, 3/day" = some found ∧
        found.value = limit.value := by
  intro limit found
  have hFound : inName? "Roar (Recharge 6–5)" = some limit := by
    decide +kernel
  have hOther : inName? "recharge 5-6, 3/day" = some found := by
    decide +kernel
  have hText : limit.value.text = "Recharge 5-6" := by
    decide +kernel
  rcases inName?_displayed _ limit hFound with ⟨hRead, hOnly⟩
  rw [hText] at hRead
  exact
    ⟨⟨hFound, hText⟩, hRead, hOther, hOnly _ found hOther rfl⟩

end CreatureProse.LimitedUse
