import CreatureProse.Proofs.Prose.Cursor
import CreatureProse.Proofs.Text.Split

/-
  Texts that occur inside other texts: what is cut out of a text,
  what lies ahead in it, and what is left when it is trimmed.

  Main declarations:
    * `Occurs`
    * `Occurs.trans`
    * `occurs_trim`
    * `Prose.occurs_slice`
    * `Cursor.occurs_of_ahead_eq`
-/

namespace CreatureProse

/- A text occurs inside another. -/
def Occurs (part whole : String) : Prop :=
  part.toList <:+: whole.toList

instance
    (part whole : String) :
    Decidable (Occurs part whole) :=
  inferInstanceAs (Decidable (part.toList <:+: whole.toList))

theorem Occurs.append_left
    {part whole : String}
    (hOccurs : Occurs part whole)
    (before : String) :
    Occurs part (before ++ whole) := by
  unfold Occurs
  rw [String.toList_append]
  exact hOccurs.trans (List.suffix_append ..).isInfix

theorem Occurs.append_right
    {part whole : String}
    (hOccurs : Occurs part whole)
    (after : String) :
    Occurs part (whole ++ after) := by
  unfold Occurs
  rw [String.toList_append]
  exact hOccurs.trans (List.prefix_append ..).isInfix

theorem Occurs.trans
    {part middle whole : String}
    (hInner : Occurs part middle)
    (hOuter : Occurs middle whole) :
    Occurs part whole :=
  List.IsInfix.trans hInner hOuter

/- Trimming leaves a part of the text. -/
theorem occurs_trim (s : String) : Occurs (Text.trim s) s := by
  rcases Text.exists_append_trimWhere Text.isBlank s.toList with
    ⟨front, back, -, hText⟩
  rw [Occurs, Text.trim, String.toList_ofList]
  rw [← List.append_assoc] at hText
  exact ⟨front, back, hText.symm⟩

------------------------------------------------------------
-- Parts of a Text to Be Read
------------------------------------------------------------

namespace Prose

@[simp] theorem toString_ofString (s : String) :
    (ofString s).toString = s :=
  String.ofList_toList

theorem occurs_slice
    (prose : Prose)
    (start stop : Nat) :
    Occurs (prose.slice start stop) prose.toString := by
  rw [Occurs, slice, toString, String.toList_ofList,
    String.toList_ofList, Array.toList_extract,
    List.extract_eq_take_drop]
  exact (List.take_prefix ..).isInfix.trans
    (List.drop_suffix ..).isInfix

end Prose

namespace Cursor

variable {prose : Prose} {c r : Cursor prose}

theorem occurs_rest (c : Cursor prose) :
    Occurs c.rest prose.toString :=
  prose.occurs_slice c.position prose.size

/- What was read occurs in the text. -/
theorem occurs_of_ahead_eq
    {read : String}
    {rest : List Char}
    (hAhead : c.ahead = read.toList ++ rest) :
    Occurs read prose.toString := by
  apply Occurs.trans _ c.occurs_rest
  rw [Occurs, rest_eq, String.toList_ofList, hAhead]
  exact (List.prefix_append ..).isInfix

end Cursor

end CreatureProse
