import CreatureProse.Entry.Annotation
import CreatureProse.Proofs.Dice.Rolls
import CreatureProse.Proofs.LimitedUse.Grammar
import CreatureProse.Proofs.Ordered.Set
import CreatureProse.Proofs.Text.Fold

/-
  The faces of a recharge in a name. They are all the numbers in
  a row between the two that are written, whichever of them is
  the greater, and there is no bound on these. So they can come
  up on the die that is rolled for the recharge only if both of
  the written numbers can.

  Main declarations:
    * `LimitedUse.Ends`
    * `LimitedUse.toNat_members_facesBetween`
    * `LimitedUse.exists_ends_of_inName?`
    * `LimitedUse.faces_as_written`
    * `LimitedUse.not_always_on_the_die`
-/

namespace CreatureProse

open CreatureProse.Parser

------------------------------------------------------------
-- One Die
------------------------------------------------------------

/- A single die comes to the numbers of its sides. -/
theorem exists_roll_one_die_iff
    {sides : UInt32}
    {n : Nat} :
    (∃ roll : Roll (.pool 1 sides), roll.total = n) ↔
      1 ≤ n ∧ n ≤ sides.toNat := by
  have hHeld (m : Nat) (hLe : m ≤ sides.toNat) :
      Total.held m = m := by
    have hLt := sides.toNat_lt
    apply Total.Fits.held_eq
    rw [Total.Fits, Total.least, Total.greatest]
    omega
  constructor
  · rintro ⟨roll, hTotal⟩
    cases roll with
    | pool faces =>
        rcases List.length_eq_one_iff.mp faces.length_eq with
          ⟨face, hShown⟩
        have hFace := faces.shown_face face (by simp [hShown])
        rw [Roll.total, hShown, List.sum_singleton,
          hHeld face hFace.2, Int.natCast_inj] at hTotal
        rwa [← hTotal]
  · intro hFace
    refine ⟨.pool (.all n fun _ => hFace), ?_⟩
    rw [Roll.total, Faces.sum_all, UInt32.toNat_one, Nat.one_mul]
    exact hHeld n hFace.2

namespace LimitedUse

------------------------------------------------------------
-- Numbers in a Row
------------------------------------------------------------

/- A number that is not above both of two is one of 32 bits. -/
theorem toNat_ofNat_of_le_max
    {a b : UInt32}
    {n : Nat}
    (hLe : n ≤ max a.toNat b.toNat) :
    (UInt32.ofNat n).toNat = n :=
  UInt32.toNat_ofNat_of_lt'
    (Nat.lt_of_le_of_lt hLe (Nat.max_lt.mpr ⟨a.toNat_lt, b.toNat_lt⟩))

theorem members_facesBetween (a b : UInt32) :
    (facesBetween a b).members =
      (List.range' (min a.toNat b.toNat)
        (max a.toNat b.toNat + 1 - min a.toNat b.toNat)).map
          UInt32.ofNat := by
  apply OrderedSet.members_ofList
  rw [Ascending, List.pairwise_map]
  apply (List.pairwise_lt_range' 1).imp_of_mem
  intro m n hm hn hLt
  rw [List.mem_range'_1] at hm hn
  have hFirst : m ≤ max a.toNat b.toNat := by omega
  have hSecond : n ≤ max a.toNat b.toNat := by omega
  rw [Std.compare_eq_lt, UInt32.lt_iff_toNat_lt,
    toNat_ofNat_of_le_max hFirst, toNat_ofNat_of_le_max hSecond]
  exact hLt

/- The faces follow one another from the less to the greater end. -/
theorem toNat_members_facesBetween (a b : UInt32) :
    (facesBetween a b).members.map UInt32.toNat =
      List.range' (min a.toNat b.toNat)
        (max a.toNat b.toNat + 1 - min a.toNat b.toNat) := by
  have hSame
      (n : Nat)
      (hn : n ∈ List.range' (min a.toNat b.toNat)
        (max a.toNat b.toNat + 1 - min a.toNat b.toNat)) :
      (UInt32.toNat ∘ UInt32.ofNat) n = n := by
    rw [List.mem_range'_1] at hn
    have hLe : n ≤ max a.toNat b.toNat := by omega
    exact toNat_ofNat_of_le_max hLe
  rw [members_facesBetween, List.map_map,
    List.map_congr_left hSame]
  exact List.map_id' _

theorem mem_facesBetween_iff
    {a b n : UInt32} :
    n ∈ (facesBetween a b).members ↔
      min a.toNat b.toNat ≤ n.toNat ∧
        n.toNat ≤ max a.toNat b.toNat := by
  have hInj : Function.Injective UInt32.toNat :=
    fun _ _ => UInt32.toNat_inj.mp
  rw [← List.mem_map_of_injective hInj,
    toNat_members_facesBetween, List.mem_range'_1]
  omega

theorem length_facesBetween (a b : UInt32) :
    (facesBetween a b).members.length =
      max a.toNat b.toNat + 1 - min a.toNat b.toNat := by
  rw [members_facesBetween, List.length_map, List.length_range']

/- Both ends come up on a die if all faces between them do. -/
theorem exists_roll_facesBetween_iff
    {a b sides : UInt32} :
    (∀ n ∈ (facesBetween a b).members,
        ∃ roll : Roll (.pool 1 sides), roll.total = n.toNat) ↔
      (1 ≤ a.toNat ∧ a.toNat ≤ sides.toNat) ∧
        1 ≤ b.toNat ∧ b.toNat ≤ sides.toNat := by
  simp only [exists_roll_one_die_iff, mem_facesBetween_iff]
  constructor
  · intro hAll
    exact ⟨hAll a (by omega), hAll b (by omega)⟩
  · intro hEnds n hn
    omega

------------------------------------------------------------
-- Written Ends
------------------------------------------------------------

/- The ends of the faces as they are written; one is both. -/
inductive Ends : List Char → UInt32 → UInt32 → Prop where
| one
    {digits : List Char}
    {n : UInt32}
    (hNumber : Numeral digits n) :
    Ends digits n n
| between
    {first last : List Char}
    {dash : Char}
    {m n : UInt32}
    (hFirst : Numeral first m)
    (hDash : dash ∈ "-–".toList)
    (hLast : Numeral last n) :
    Ends (first ++ dash :: last) m n

theorem faces_iff_ends
    {cs : List Char}
    {faces : OrderedSet UInt32} :
    Faces cs faces ↔
      ∃ m n, Ends cs m n ∧ faces = facesBetween m n := by
  constructor
  · intro hFaces
    cases hFaces with
    | one hNumber => exact ⟨_, _, .one hNumber, rfl⟩
    | between hFirst hDash hLast =>
        exact ⟨_, _, .between hFirst hDash hLast, rfl⟩
  · rintro ⟨m, n, hEnds, rfl⟩
    cases hEnds with
    | one hNumber => exact .one hNumber
    | between hFirst hDash hLast =>
        exact .between hFirst hDash hLast

/- A limit that is found covers a text of its own. -/
theorem written_of_inName?
    {name : String}
    {limit : Located LimitedUse}
    (hFound : inName? name = some limit) :
    Written (Text.folded (limit.span.text name)) limit.value := by
  rcases readAt_of_inName? hFound with ⟨s, r, hRun, hSpan⟩
  rcases written_of_run hRun with ⟨cs, hWritten, hAhead⟩
  have hCovered := Cursor.folded_text_between hAhead
  rw [← hSpan] at hCovered
  change Text.folded (limit.span.text name) = cs at hCovered
  rwa [hCovered]

/- A recharge that is found has the faces that are written. -/
theorem exists_ends_of_inName?
    {name : String}
    {limit : Located LimitedUse}
    {faces : OrderedSet UInt32}
    (hFound : inName? name = some limit)
    (hRecharge : limit.value.recharge = some (.turnStart faces)) :
    ∃ first last cs, Ends cs first last ∧
      Text.folded (limit.span.text name) =
        "recharge ".toList ++ cs ∧
      faces = facesBetween first last := by
  have hWritten := written_of_inName? hFound
  generalize hText : Text.folded (limit.span.text name) = text,
    hValue : limit.value = value at hWritten
  rw [hValue] at hRecharge
  cases hWritten with
  | recharge hFaces =>
      rcases faces_iff_ends.mp hFaces with ⟨m, n, hEnds, rfl⟩
      cases hRecharge
      exact ⟨m, n, _, hEnds, rfl, rfl⟩
  | daily hDaily => cases hRecharge
  | anyRest => cases hRecharge
  | shortRest => cases hRecharge
  | longRest => cases hRecharge

------------------------------------------------------------
-- Recharges in Names
------------------------------------------------------------

/-
  A recharge in a name comes with the roll of a six-sided die.
  Its faces are all the numbers from one written end to the
  other, which can come up on this die exactly if both ends can.
  Whatever two numbers are written, their recharge is found.
-/
theorem faces_as_written
    (name : String) :
    (∀ (limit : Located LimitedUse) (faces : OrderedSet UInt32),
      inName? name = some limit →
        limit.value.recharge = some (.turnStart faces) →
          Annotation.rechargeRoll (some limit) =
              [⟨.dice (.pool 1 6), limit.span⟩] ∧
            ∃ first last cs, Ends cs first last ∧
              Text.folded (limit.span.text name) =
                "recharge ".toList ++ cs ∧
              faces.members.map UInt32.toNat =
                List.range' (min first.toNat last.toNat)
                  faces.members.length ∧
              faces.members.length =
                max first.toNat last.toNat + 1 -
                  min first.toNat last.toNat ∧
              ((∀ n ∈ faces.members,
                  ∃ roll : Roll (.pool 1 6),
                    roll.total = n.toNat) ↔
                (1 ≤ first.toNat ∧ first.toNat ≤ 6) ∧
                  1 ≤ last.toNat ∧ last.toNat ≤ 6)) ∧
    ∀ (cs : List Char) (first last : UInt32),
      Ends cs first last →
        Text.folded name = "recharge ".toList ++ cs →
          inName? name =
            some ⟨rechargeOn (facesBetween first last),
              ⟨0, name.length⟩⟩ := by
  constructor
  · intro limit faces hFound hRecharge
    rcases exists_ends_of_inName? hFound hRecharge with
      ⟨first, last, cs, hEnds, hText, rfl⟩
    refine ⟨?_, first, last, cs, hEnds, hText, ?_,
      length_facesBetween first last, exists_roll_facesBetween_iff⟩
    · obtain ⟨⟨amount, recharge⟩, span⟩ := limit
      cases hRecharge
      rfl
    · rw [toNat_members_facesBetween, length_facesBetween]
  · intro cs first last hEnds hText
    have hWritten :
        Written (Text.folded name)
          (rechargeOn (facesBetween first last)) := by
      rw [hText]
      exact .recharge (faces_iff_ends.mpr ⟨_, _, hEnds, rfl⟩)
    have hFound := inName?_of_written hWritten rfl
    rwa [Text.length_folded] at hFound

/- A recharge on faces that no six-sided die has. -/
def wideRecharge : String :=
  "Web (Recharge 5-20)"

theorem inName?_wideRecharge :
    inName? wideRecharge =
      some ⟨rechargeOn (facesBetween 5 20), ⟨5, 18⟩⟩ := by
  decide +kernel

theorem faces_as_written_wideRecharge :
    let faces := facesBetween 5 20
    let limit : Located LimitedUse := ⟨rechargeOn faces, ⟨5, 18⟩⟩
    (inName? wideRecharge = some limit ∧
      limit.value.recharge = some (.turnStart faces)) ∧
      (∃ first last cs, Ends cs first last ∧
        Text.folded (limit.span.text wideRecharge) =
          "recharge ".toList ++ cs ∧
        faces.members.map UInt32.toNat =
          List.range' (min first.toNat last.toNat) 16) ∧
      (Ends ['2', '0'] 20 20 ∧
        Text.folded "RECHARGE 20" =
          "recharge ".toList ++ ['2', '0']) ∧
      inName? "RECHARGE 20" =
        some ⟨rechargeOn (facesBetween 20 20), ⟨0, 11⟩⟩ := by
  intro faces limit
  have hTwenty : Ends ['2', '0'] 20 20 :=
    .one ⟨by decide, List.all_eq_true.mp (by decide), by decide⟩
  have hFolded :
      Text.folded "RECHARGE 20" =
        "recharge ".toList ++ ['2', '0'] := by
    decide +kernel
  rcases (faces_as_written wideRecharge).1 limit faces
      inName?_wideRecharge rfl with
    ⟨-, first, last, cs, hEnds, hText, hRow, -, -⟩
  have hLength : faces.members.length = 16 := by decide +kernel
  rw [hLength] at hRow
  exact
    ⟨⟨inName?_wideRecharge, rfl⟩,
      ⟨first, last, cs, hEnds, hText, hRow⟩, ⟨hTwenty, hFolded⟩,
      (faces_as_written "RECHARGE 20").2 _ _ _ hTwenty hFolded⟩

/- Recharges have faces that are not on the die, and too many. -/
theorem not_always_on_the_die :
    (¬ ∀ (name : String) (limit : Located LimitedUse)
        (faces : OrderedSet UInt32),
      inName? name = some limit →
        limit.value.recharge = some (.turnStart faces) →
          ∀ n ∈ faces.members, 1 ≤ n ∧ n ≤ 6) ∧
    ¬ ∀ (name : String) (limit : Located LimitedUse)
        (faces : OrderedSet UInt32),
      inName? name = some limit →
        limit.value.recharge = some (.turnStart faces) →
          faces.members.length ≤ 6 := by
  constructor
  · intro hAll
    have hLast := hAll _ _ _ inName?_wideRecharge rfl 20
      (by decide +kernel)
    exact absurd hLast.2 (by decide)
  · intro hAll
    have hSize := hAll _ _ _ inName?_wideRecharge rfl
    exact absurd hSize (by decide +kernel)

end LimitedUse

end CreatureProse
