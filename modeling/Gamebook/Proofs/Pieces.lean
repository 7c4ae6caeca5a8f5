import Gamebook.Text.Blank

/-!
# Pieces of texts

A text is cut into pieces at certain characters. The pieces of two texts with such a character
between them are those of the one and those of the other. A text without such characters is one
piece.

* `Text.splitAt_append_cons` : the pieces before and behind a cut.
* `Text.lines_of_notMem` : a text without line breaks is one line.
-/

namespace Gamebook

namespace Text

theorem splitAt_ne_nil (p : Char → Bool) (cs : List Char) : splitAt p cs ≠ [] := by
  cases cs with
  | nil => exact List.cons_ne_nil _ _
  | cons c rest =>
    rw [splitAt]
    split
    · exact List.cons_ne_nil _ _
    · split <;> exact List.cons_ne_nil _ _

/-- A text without characters of the class is one piece. -/
theorem splitAt_of_forall {p : Char → Bool} {cs : List Char} (h : ∀ c ∈ cs, p c = false) :
    splitAt p cs = [cs] := by
  induction cs with
  | nil => rfl
  | cons c rest ih =>
    obtain ⟨hc, hrest⟩ := List.forall_mem_cons.mp h
    rw [splitAt, hc, ih hrest]
    rfl

theorem splitAt_of_notMem {c : Char} {cs : List Char} (h : c ∉ cs) :
    splitAt (· == c) cs = [cs] :=
  splitAt_of_forall fun d hd => beq_false_of_ne (by rintro rfl; exact h hd)

/-- The pieces before and behind a character of the class. -/
theorem splitAt_append_cons {p : Char → Bool} {c : Char} (hc : p c = true) (before : List Char)
    (behind : List Char) :
    splitAt p (before ++ c :: behind) = splitAt p before ++ splitAt p behind := by
  induction before with
  | nil => simp [splitAt, hc]
  | cons b rest ih =>
    rw [List.cons_append, splitAt, splitAt, ih]
    split
    · rfl
    · obtain ⟨piece, pieces, hpieces⟩ := List.exists_cons_of_ne_nil (splitAt_ne_nil p rest)
      rw [hpieces]
      rfl

/-! ## Lines -/

theorem dropReturn_of_getLast? {cs : List Char} {c : Char} (h : cs.getLast? = some c)
    (hc : c ≠ '\r') : dropReturn cs = cs := by
  rw [List.getLast?_eq_head?_reverse] at h
  rw [dropReturn]
  split
  · next rest heq =>
    rw [heq] at h
    exact absurd (Option.some.inj h).symm hc
  · rfl

/-- A text without line breaks is one line, or none if it is empty. -/
theorem lines_of_notMem {text : String} (h : '\n' ∉ text.toList) :
    lines text = if text = "" then [] else [text] := by
  rw [lines, splitAt_of_notMem h]
  cases hchars : text.toList with
  | nil =>
    obtain rfl := String.toList_eq_nil_iff.mp hchars
    rfl
  | cons c cs =>
    have hfull : text ≠ "" := by
      rintro rfl
      cases hchars
    rw [if_neg hfull, ← String.ofList_toList (s := text), hchars]
    rfl

end Text

end Gamebook
