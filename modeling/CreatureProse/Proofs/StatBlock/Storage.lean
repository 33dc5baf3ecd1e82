import CreatureProse.Proofs.Form.Reading
import CreatureProse.StatBlock.Resource

/-
  Stat blocks and resources lose nothing when they are stored.

  Main declarations:
    * `Storable StatBlock`
    * `Storable Resource`
    * `StatBlock.lossless`
-/

namespace CreatureProse

open Storage

------------------------------------------------------------
-- Inputs with Results
------------------------------------------------------------

section Memos

variable
  {ι ρ : Type}
  [Outlined ι]
  [Restorable ι]
  [Storable ι]
  [Outlined ρ]
  [Restorable ρ]
  [Storable ρ]

instance : Storable (Stamped ρ) := by
  refine .ofRecord
    (fields? ["value", "parserName", "version",
      "modelVersion"] 3)
    rfl (fun _ => rfl) (fun _ => rfl) (by decide) (by decide)
    (by simp) ?_ ?_
  · intro p hNone
    unfold instRestorableStamped
    simp only [hNone]
  · intro p levels a b hSome
    unfold instRestorableStamped
    simp [hSome, Outline.levelsOfFields, and_assoc]

instance : Storable (Memo ι ρ) := by
  refine .ofRecord (allFields? ["input", "result"]) rfl
    (fun _ => rfl) (fun _ => rfl) (by decide) (by decide)
    (by simp) ?_ ?_
  · intro p hNone
    unfold instRestorableMemo
    simp only [hNone]
  · intro p levels a b hSome
    unfold instRestorableMemo
    simp [hSome, Outline.levelsOfFields, and_assoc]

end Memos

------------------------------------------------------------
-- Stat Blocks and Resources
------------------------------------------------------------

instance : Storable Legendary := by
  refine .ofRecord (allFields? ["description", "actions"]) rfl
    (fun _ => rfl) (fun _ => rfl) (by decide) (by decide)
    (by simp) ?_ ?_
  · intro p hNone
    unfold instRestorableLegendary
    simp only [hNone]
  · intro p levels a b hSome
    unfold instRestorableLegendary
    simp [hSome, Outline.levelsOfFields, and_assoc]

instance : Storable StatBlock := by
  refine .ofRecord
    (allFields? ["features", "actions", "reactions",
      "legendary"])
    rfl (fun _ => rfl) (fun _ => rfl) (by decide) (by decide)
    (by simp) ?_ ?_
  · intro p hNone
    unfold instRestorableStatBlock
    simp only [hNone]
  · intro p levels a b hSome
    unfold instRestorableStatBlock
    simp [hSome, Outline.levelsOfFields, and_assoc]

instance : Storable Resource := by
  refine .ofRecord (allFields? ["id", "title", "slots"]) rfl
    (fun _ => rfl) (fun _ => rfl) (by decide) (by decide)
    (by simp) ?_ ?_
  · intro p hNone
    unfold instRestorableResource
    simp only [hNone]
  · intro p levels a b hSome
    unfold instRestorableResource
    simp [hSome, Outline.levelsOfFields, and_assoc]

------------------------------------------------------------
-- Nothing Is Lost
------------------------------------------------------------

/- A list has as many levels as its members allow. -/
theorem levelsOfItems_le
    {items : List Outline}
    {n : Nat}
    (hItems : ∀ o ∈ items, o.levels ≤ n) :
    Outline.levelsOfItems items ≤ n := by
  induction items with
  | nil => exact Nat.zero_le n
  | cons o more ih =>
      rw [Outline.levelsOfItems, Nat.max_le]
      exact ⟨hItems o (by simp),
        ih fun p hp => hItems p (by simp [hp])⟩

/- A resource is a record with a list of marks. -/
theorem levels_resource (r : Resource) :
    (outline r).levels ≤ 2 := by
  have hSlots : (outline r.slots).levels ≤ 1 := by
    refine Nat.succ_le_succ (levelsOfItems_le ?_)
    intro o ho
    obtain ⟨slot, -, rfl⟩ := List.mem_map.mp ho
    exact Nat.le_refl 0
  have hId : (outline r.id).levels = 0 := rfl
  have hTitle : (outline r.title).levels = 0 := rfl
  change Outline.levelsOfFields
    [("id", outline r.id), ("title", outline r.title),
      ("slots", outline r.slots)] + 1 ≤ 2
  simp only [Outline.levelsOfFields, hId, hTitle]
  omega

theorem levels_resources (rs : List Resource) :
    (outline rs).levels ≤ Part.maxLevels := by
  have hItems :
      Outline.levelsOfItems (rs.map outline) ≤ 2 := by
    refine levelsOfItems_le ?_
    intro o ho
    obtain ⟨r, -, rfl⟩ := List.mem_map.mp ho
    exact levels_resource r
  change Outline.levelsOfItems (rs.map outline) + 1 ≤ 1023
  omega

/-
  A stat block whose texts, lists and numbers fit is what its
  bytes hold, however deep it is, where all its levels are
  allowed. The usual limit is the only thing that can prevent
  this. A list of resources that fits never reaches the limit.
-/
theorem StatBlock.lossless :
    (∀ b : StatBlock, (outline b).fits = true →
      (∀ levels, (outline b).levels ≤ levels →
        ofBytesWithin? levels (toBytes b) = some b) ∧
      (ofBytes? (toBytes b) = some b ↔
        (outline b).levels ≤ Part.maxLevels)) ∧
    (∀ rs : List Resource, (outline rs).fits = true →
      ofBytes? (toBytes rs) = some rs) := by
  refine ⟨fun b hFits => ⟨?_, ?_⟩, ?_⟩
  · intro levels hLevels
    exact (ofBytesWithin?_toBytes hFits levels).mpr
      ⟨rfl, hLevels⟩
  · rw [ofBytes?, ofBytesWithin?_toBytes hFits]
    exact and_iff_right rfl
  · intro rs hFits
    exact (ofBytesWithin?_toBytes hFits _).mpr
      ⟨rfl, levels_resources rs⟩

/-
  A breath that was read once and a bite that was never read,
  among the actions of a creature without legendary actions.
-/
def breathingBlock : StatBlock where
  features := []
  actions :=
    [{ input := ⟨"Fire Breath (Recharge 5-6)", "2d6 - 1."⟩
       result := some
         { value := some
             { limitedUse := some
                 ⟨.rechargeOn ⟨[5, 6], by decide⟩, ⟨13, 25⟩⟩
               action := none
               spellcasting := none
               annotations :=
                 [⟨.dice (.pool 2 6 - .constant 1), ⟨0, 7⟩⟩] }
           stamp := ⟨"ActionParser", "1", "1"⟩ } },
      .unread ⟨"Bite", ""⟩]
  reactions := []
  legendary := none

theorem StatBlock.lossless_breathingBlock :
    ofBytes? (toBytes breathingBlock) = some breathingBlock ∧
      ofBytes? (toBytes [Resource.unused "0-breath" "Breath" 1])
        = some [Resource.unused "0-breath" "Breath" 1] :=
  ⟨(StatBlock.lossless.1 breathingBlock
      (by decide +kernel)).2.mpr (by decide +kernel),
    StatBlock.lossless.2 [Resource.unused "0-breath" "Breath" 1]
      (by decide +kernel)⟩

end CreatureProse
