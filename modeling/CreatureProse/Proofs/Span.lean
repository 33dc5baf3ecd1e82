import CreatureProse.Span

/-
  Spans that follow one another between two positions. Their
  order keeps them apart.

  Main declarations:
    * `Span.InOrder`
    * `Span.InOrder.append`
    * `Span.InOrder.pairwise_apart`
    * `Span.Tiles`
-/

namespace CreatureProse.Span

/- Two spans without a character in common. -/
def Apart (s t : Span) : Prop :=
  s.overlaps t = false

instance (s t : Span) : Decidable (Apart s t) := by
  unfold Apart
  infer_instance

theorem overlaps_iff
    {s t : Span} :
    s.overlaps t = true ↔
      s.start < t.stop ∧ t.start < s.stop := by
  rw [overlaps, Bool.and_eq_true, decide_eq_true_eq,
    decide_eq_true_eq]

theorem apart_iff
    {s t : Span} :
    Apart s t ↔ s.stop ≤ t.start ∨ t.stop ≤ s.start := by
  unfold Apart overlaps
  rw [Bool.and_eq_false_iff, decide_eq_false_iff_not,
    decide_eq_false_iff_not]
  omega

theorem Apart.symm
    {s t : Span}
    (hApart : Apart s t) :
    Apart t s :=
  apart_iff.mpr (apart_iff.mp hApart).symm

/-
  Spans that are not empty and follow one another from one
  position up to another.
-/
def InOrder : List Span → Nat → Nat → Prop
| [], low, high => low ≤ high
| s :: more, low, high =>
  low ≤ s.start ∧ s.start < s.stop ∧ InOrder more s.stop high

namespace InOrder

variable {s : Span} {ss ts : List Span} {low middle high : Nat}

theorem le
    (hOrder : InOrder ss low high) :
    low ≤ high := by
  induction ss generalizing low with
  | nil => exact hOrder
  | cons s more ih =>
      rcases hOrder with ⟨hStart, hNonempty, hMore⟩
      have hStop := ih hMore
      omega

/- The first position may be an earlier one. -/
theorem of_le
    (hLe : low ≤ middle)
    (hOrder : InOrder ss middle high) :
    InOrder ss low high := by
  cases ss with
  | nil => exact Nat.le_trans hLe hOrder
  | cons s more =>
      rcases hOrder with ⟨hStart, hNonempty, hMore⟩
      exact ⟨Nat.le_trans hLe hStart, hNonempty, hMore⟩

/- Spans up to a position can be followed by others. -/
theorem append
    (hFirst : InOrder ss low middle)
    (hSecond : InOrder ts middle high) :
    InOrder (ss ++ ts) low high := by
  induction ss generalizing low with
  | nil => exact of_le hFirst hSecond
  | cons s more ih =>
      rcases hFirst with ⟨hStart, hNonempty, hMore⟩
      exact ⟨hStart, hNonempty, ih hMore⟩

/- The last position may be a later one. -/
theorem to_le
    (hOrder : InOrder ss low middle)
    (hLe : middle ≤ high) :
    InOrder ss low high := by
  have hNone : InOrder [] middle high := hLe
  simpa using hOrder.append hNone

/- Each span lies between the two positions. -/
theorem of_mem
    (hOrder : InOrder ss low high)
    (hMem : s ∈ ss) :
    low ≤ s.start ∧ s.start < s.stop ∧ s.stop ≤ high := by
  induction ss generalizing low with
  | nil => cases hMem
  | cons t more ih =>
      rcases hOrder with ⟨hStart, hNonempty, hMore⟩
      rcases List.mem_cons.mp hMem with rfl | hMem
      · exact ⟨hStart, hNonempty, hMore.le⟩
      · rcases ih hMore hMem with ⟨hLow, hSpan, hHigh⟩
        exact ⟨by omega, hSpan, hHigh⟩

/- Spans in order are apart. -/
theorem pairwise_apart
    (hOrder : InOrder ss low high) :
    ss.Pairwise Apart := by
  induction ss generalizing low with
  | nil => exact List.Pairwise.nil
  | cons s more ih =>
      rcases hOrder with ⟨-, -, hMore⟩
      refine List.Pairwise.cons ?_ (ih hMore)
      intro t ht
      exact apart_iff.mpr (Or.inl (hMore.of_mem ht).1)

end InOrder

/-
  Spans that each begin where the one before it ended, from one
  position to another.
-/
def Tiles : List Span → Nat → Nat → Prop
| [], low, high => low = high
| s :: more, low, high =>
  s.start = low ∧ s.start ≤ s.stop ∧ Tiles more s.stop high

theorem Tiles.le
    {ss : List Span}
    {low high : Nat}
    (hTiles : Tiles ss low high) :
    low ≤ high := by
  induction ss generalizing low with
  | nil => exact Nat.le_of_eq hTiles
  | cons s more ih =>
      rcases hTiles with ⟨rfl, hSpan, hMore⟩
      exact Nat.le_trans hSpan (ih hMore)

/- The texts of such spans make up the text between the two. -/
theorem Tiles.flatMap_extract
    {α : Type}
    (source : Array α)
    {ss : List Span}
    {low high : Nat}
    (hTiles : Tiles ss low high) :
    (ss.flatMap fun s => (source.extract s.start s.stop).toList) =
      (source.extract low high).toList := by
  induction ss generalizing low with
  | nil =>
      cases hTiles
      simp
  | cons s more ih =>
      have hLe := hTiles.2.2.le
      rcases hTiles with ⟨rfl, hSpan, hMore⟩
      rw [List.flatMap_cons, ih hMore, ← Array.toList_append,
        Array.extract_append_extract, Nat.min_eq_left hSpan,
        Nat.max_eq_right hLe]

end CreatureProse.Span
