import CreatureProse.Text.Split
import Mathlib.Data.List.TakeWhile

/-
  What trimming leaves of a text: it begins and ends with
  characters that stay, and only the others are taken away.

  Main declarations:
    * `Text.exists_append_trimWhere`
    * `Text.trimWhere_eq_self_iff`
    * `Text.trimWhere_eq_nil_iff`
    * `Text.trim_trim`
-/

namespace CreatureProse.Text

variable {drop : Char → Bool} {cs : List Char} {a : Char}

theorem eq_false_of_head?_dropWhile
    (ha : a ∈ (cs.dropWhile drop).head?) :
    drop a = false := by
  have hHead := List.head?_dropWhile_not drop cs
  rw [Option.mem_def.mp ha] at hHead
  exact hHead

theorem dropWhile_eq_self_of_head?
    (hHead : ∀ a ∈ cs.head?, drop a = false) :
    cs.dropWhile drop = cs := by
  cases cs with
  | nil => rfl
  | cons a rest =>
      exact List.dropWhile_cons_of_neg (by
        rw [hHead a rfl]
        decide)

/- Only characters of the kind are taken from the end. -/
theorem exists_append_dropWhile_reverse
    (drop : Char → Bool)
    (cs : List Char) :
    ∃ back, (∀ a ∈ back, drop a = true) ∧
      cs = (cs.reverse.dropWhile drop).reverse ++ back := by
  refine ⟨(cs.reverse.takeWhile drop).reverse, ?_, ?_⟩
  · intro a ha
    exact List.mem_takeWhile_imp (List.mem_reverse.mp ha)
  · rw [← List.reverse_append, List.takeWhile_append_dropWhile,
      List.reverse_reverse]

/- Only characters of the kind are taken away. -/
theorem exists_append_trimWhere
    (drop : Char → Bool)
    (cs : List Char) :
    ∃ front back, (∀ a ∈ front ++ back, drop a = true) ∧
      cs = front ++ (trimWhere drop cs ++ back) := by
  rcases exists_append_dropWhile_reverse drop
      (cs.dropWhile drop) with
    ⟨back, hBack, hRest⟩
  refine ⟨cs.takeWhile drop, back, ?_, ?_⟩
  · intro a ha
    rcases List.mem_append.mp ha with hFront | hEnd
    · exact List.mem_takeWhile_imp hFront
    · exact hBack a hEnd
  · rw [trimWhere, ← hRest, List.takeWhile_append_dropWhile]

/- A text is left as it is if it begins and ends with others. -/
theorem trimWhere_eq_self_iff :
    trimWhere drop cs = cs ↔
      (∀ a ∈ cs.head?, drop a = false) ∧
        ∀ a ∈ cs.getLast?, drop a = false := by
  constructor
  · intro hSame
    rcases exists_append_dropWhile_reverse drop
        (cs.dropWhile drop) with
      ⟨back, -, hRest⟩
    change cs.dropWhile drop = trimWhere drop cs ++ back at hRest
    rw [hSame] at hRest
    constructor
    · intro a ha
      apply eq_false_of_head?_dropWhile
      rw [hRest, List.head?_append, Option.mem_def.mp ha]
      rfl
    · intro a ha
      rw [← hSame, trimWhere, List.getLast?_reverse] at ha
      exact eq_false_of_head?_dropWhile ha
  · rintro ⟨hHead, hLast⟩
    rw [trimWhere, dropWhile_eq_self_of_head? hHead,
      dropWhile_eq_self_of_head?, List.reverse_reverse]
    intro a ha
    rw [List.head?_reverse] at ha
    exact hLast a ha

theorem trimWhere_trimWhere :
    trimWhere drop (trimWhere drop cs) = trimWhere drop cs := by
  rw [trimWhere_eq_self_iff]
  rcases exists_append_dropWhile_reverse drop
      (cs.dropWhile drop) with
    ⟨back, -, hRest⟩
  change cs.dropWhile drop = trimWhere drop cs ++ back at hRest
  constructor
  · intro a ha
    apply eq_false_of_head?_dropWhile
    rw [hRest, List.head?_append, Option.mem_def.mp ha]
    rfl
  · intro a ha
    rw [trimWhere, List.getLast?_reverse] at ha
    exact eq_false_of_head?_dropWhile ha

/- Nothing is left if there are no other characters. -/
theorem trimWhere_eq_nil_iff :
    trimWhere drop cs = [] ↔ ∀ a ∈ cs, drop a = true := by
  constructor
  · intro hNil
    rcases exists_append_trimWhere drop cs with
      ⟨front, back, hAll, hText⟩
    rw [hNil, List.nil_append] at hText
    rw [hText]
    exact hAll
  · intro hAll
    have hNone : cs.dropWhile drop = [] := by
      rw [List.dropWhile_eq_nil_iff]
      exact hAll
    rw [trimWhere, hNone]
    rfl

theorem trim_trim (s : String) : trim (trim s) = trim s := by
  rw [trim, trim, String.toList_ofList, trimWhere_trimWhere]

end CreatureProse.Text
