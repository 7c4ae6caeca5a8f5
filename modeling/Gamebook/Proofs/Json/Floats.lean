import Gamebook.Proofs.Json.Numbers

/-!
# Reading back floats

The text of a finite float in the layout of JSON is read to its end, and as a float, never as an
integer. The float that is read need not be the one that was written: the reader scales digits by
powers of ten and rounds at each step. `rereadNumber` is the float that comes back.

* `Json.readNumber_floatText` : the text of a float is read as a float, if at all.
* `Layout.floatText_data` : floats are written as such texts.
* `Json.readSigned_float` : what reading the text of a float gives, whatever follows.
-/

namespace Gamebook

namespace Json

/-! ## Floats -/

/-- Reading, if it succeeds, gives a float and reaches the end of the text. -/
def ReadsFloat (result : Except Malformation (Amount × Cursor)) : Prop :=
  ∀ amount after, result = .ok (amount, after) → after.rest = [] ∧ ∃ x, amount = .number x

theorem readsFloat_error (fault : Malformation) : ReadsFloat (.error fault) := by
  rintro amount after ⟨⟩

/-- The exponent of a float, if it has one. -/
inductive ExponentText : List Char → Prop where
  | none : ExponentText []
  | up {digits : List Char} (h : AllDigits digits) : ExponentText ('e' :: '+' :: digits)
  | down {digits : List Char} (h : AllDigits digits) : ExponentText ('e' :: '-' :: digits)

/-- What follows the leading digits of a float. -/
inductive FloatTail : List Char → Prop where
  | fraction {digits exponent : List Char} (hd : AllDigits digits) (he : ExponentText exponent) :
    FloatTail ('.' :: digits ++ exponent)
  | exponent {exponent : List Char} (he : ExponentText exponent) (hne : exponent ≠ []) :
    FloatTail exponent

/-- The text of a float without its sign. -/
structure FloatText (text : List Char) : Prop where
  split : ∃ digits tail, digits ≠ [] ∧ AllDigits digits ∧ FloatTail tail ∧ text = digits ++ tail

theorem ExponentText.not_digit {text : List Char} (h : ExponentText text) :
    ∀ c ∈ text.head?, c.isDigit = false := by
  cases h with
  | none => rintro c ⟨⟩
  | up _ => rintro c ⟨rfl⟩; rfl
  | down _ => rintro c ⟨rfl⟩; rfl

theorem FloatTail.not_digit {text : List Char} (h : FloatTail text) :
    ∀ c ∈ text.head?, c.isDigit = false := by
  cases h with
  | fraction _ _ => rintro c ⟨rfl⟩; rfl
  | exponent he _ => exact he.not_digit

/-- Skipping digits ends where other text begins. -/
theorem dropWhile_digits {digits tail : List Char} (hd : AllDigits digits)
    (ht : ∀ c ∈ tail.head?, c.isDigit = false) :
    (digits ++ tail).dropWhile Char.isDigit = tail := by
  rw [List.dropWhile_append_of_pos hd]
  cases tail with
  | nil => rfl
  | cons c tail => exact List.dropWhile_cons_of_neg (by simp [ht c rfl])

/-- Skipping what taking digits has left ends where skipping all digits ends. -/
theorem dropWhile_takeDigits (significand : Nat) (at_ : Cursor) :
    (takeDigits significand at_).2.2.rest.dropWhile Char.isDigit =
      at_.rest.dropWhile Char.isDigit := by
  obtain ⟨text, mark⟩ := at_
  change (takeDigits.go significand 0 mark text).2.2.rest.dropWhile _ = text.dropWhile _
  generalize 0 = count
  induction text generalizing significand count mark with
  | nil => rfl
  | cons c text ih =>
    rw [takeDigits.go]
    split
    · next d hd =>
      split
      · have hdigit : c.isDigit = true := by
          refine Decidable.byContradiction fun hnot => ?_
          rw [digitOf?, if_neg hnot] at hd
          cases hd
        rw [ih, List.dropWhile_cons_of_pos hdigit]
      · rfl
    · rfl

theorem dropWhile_of_not_start {at_ : Cursor} (h : startsWithDigit at_ = false) :
    at_.rest.dropWhile Char.isDigit = at_.rest := by
  obtain ⟨text, mark⟩ := at_
  cases text with
  | nil => rfl
  | cons c text => exact List.dropWhile_cons_of_neg (by rw [show c.isDigit = false from h]; decide)

theorem readsFloat_finish (negative : Bool) (numeral : Numeral) {at_ : Cursor}
    (h : at_.rest = []) : ReadsFloat (finish negative numeral at_) := by
  unfold finish
  split
  · rintro amount after ⟨⟩
    exact ⟨h, _, rfl⟩
  · exact readsFloat_error _

private theorem rest_readExponentDigits {digits : List Char} (h : AllDigits digits) (mark : Mark) :
    AllDigits (readExponentDigits ⟨digits, mark⟩).2.rest ∧
      ((readExponentDigits ⟨digits, mark⟩).1 ≠ none →
        (readExponentDigits ⟨digits, mark⟩).2.rest = []) := by
  change AllDigits (readExponentDigits.go 0 mark digits).2.rest ∧
    ((readExponentDigits.go 0 mark digits).1 ≠ none →
      (readExponentDigits.go 0 mark digits).2.rest = [])
  generalize 0 = value
  induction digits generalizing value mark with
  | nil => exact ⟨h, fun _ => rfl⟩
  | cons c digits ih =>
    have hrest : AllDigits digits := fun c' hc' => h c' (List.mem_cons_of_mem c hc')
    rw [readExponentDigits.go]
    split
    · split
      · exact ih hrest _ _
      · exact ⟨hrest, fun hne => absurd rfl hne⟩
    · next hd =>
      rw [digitOf?, if_pos (h c List.mem_cons_self)] at hd
      cases hd

theorem readsFloat_exponent (negative : Bool) (numeral : Numeral) (down : Bool)
    {digits : List Char} (h : AllDigits digits) (mark : Mark) :
    ReadsFloat (readExponentBehind negative numeral down ⟨digits, mark⟩) := by
  obtain ⟨hall, hend⟩ := rest_readExponentDigits h mark
  unfold readExponentBehind
  split
  · exact readsFloat_error _
  · split
    · exact readsFloat_error _
    · split
      · next e after heq =>
        rw [heq] at hend
        exact readsFloat_finish _ _ (hend (Option.some_ne_none e))
      · next after heq =>
        rw [heq] at hall
        split
        · exact readsFloat_error _
        · refine readsFloat_finish _ _ ?_
          rw [rest_skipDigits]
          simpa using dropWhile_digits hall ExponentText.none.not_digit

theorem readsFloat_exponentOrEnd (negative : Bool) (numeral : Numeral) {at_ : Cursor}
    (h : ExponentText at_.rest) : ReadsFloat (readExponentOrEnd negative numeral at_) := by
  obtain ⟨text, mark⟩ := at_
  cases h with
  | none => exact readsFloat_finish _ _ rfl
  | up hd => exact readsFloat_exponent negative numeral false hd _
  | down hd => exact readsFloat_exponent negative numeral true hd _

theorem readsFloat_fraction (negative : Bool) (numeral : Numeral) {digits exponent : List Char}
    (hd : AllDigits digits) (he : ExponentText exponent) (mark : Mark) :
    ReadsFloat (readFraction negative numeral ⟨digits ++ exponent, mark⟩) := by
  have hdrop := dropWhile_takeDigits numeral.significand ⟨digits ++ exponent, mark⟩
  rw [dropWhile_digits hd he.not_digit] at hdrop
  unfold readFraction
  generalize takeDigits numeral.significand ⟨digits ++ exponent, mark⟩ = taken at hdrop
  obtain ⟨significand, count, after⟩ := taken
  dsimp only at hdrop ⊢
  split
  · refine readsFloat_exponentOrEnd _ _ ?_
    rwa [rest_skipDigits, hdrop]
  · next hstart =>
    rw [dropWhile_of_not_start (Bool.eq_false_iff.mpr hstart)] at hdrop
    split
    · split <;> exact readsFloat_error _
    · exact readsFloat_exponentOrEnd _ _ (hdrop ▸ he)

theorem readsFloat_numberRest (negative : Bool) (significand dropped : Nat) {at_ : Cursor}
    (h : FloatTail at_.rest) : ReadsFloat (readNumberRest negative significand dropped at_) := by
  obtain ⟨text, mark⟩ := at_
  cases h with
  | fraction hd he => exact readsFloat_fraction negative _ hd he _
  | exponent he hne =>
    cases he with
    | none => exact absurd rfl hne
    | up hd => exact readsFloat_exponent negative _ false hd _
    | down hd => exact readsFloat_exponent negative _ true hd _

/-- The text of a float is read as a float and to its end, if at all. -/
theorem readNumber_floatText (negative : Bool) {text : List Char} (h : FloatText text)
    (mark : Mark) : ReadsFloat (readNumber negative ⟨text, mark⟩) := by
  obtain ⟨digits, tail, hne, hd, ht, rfl⟩ := h.split
  cases digits with
  | nil => exact absurd rfl hne
  | cons c digits =>
    have hrest : AllDigits digits := fun c' hc' => hd c' (List.mem_cons_of_mem c hc')
    by_cases hc : c = '0'
    · subst hc
      rw [List.cons_append, readNumber_zero]
      split
      · exact readsFloat_error _
      · next hstart =>
        have hdrop := dropWhile_of_not_start (Bool.eq_false_iff.mpr hstart)
        rw [dropWhile_digits hrest ht.not_digit] at hdrop
        exact readsFloat_numberRest _ _ _ (hdrop ▸ ht)
    · have hdrop : (takeDigits 0 ⟨c :: digits ++ tail, mark⟩).2.2.rest.dropWhile Char.isDigit =
          tail := (dropWhile_takeDigits 0 _).trans (dropWhile_digits hd ht.not_digit)
      rw [List.cons_append, readNumber_leading negative hc, readLeading, ← List.cons_append]
      generalize takeDigits 0 ⟨c :: digits ++ tail, mark⟩ = taken at hdrop ⊢
      obtain ⟨significand, count, after⟩ := taken
      split
      · refine readsFloat_numberRest _ _ _ ?_
        rw [rest_skipDigits]
        exact hdrop.symm ▸ ht
      · exact readsFloat_error _

end Json

/-! ## How floats are written -/

open Json (AllDigits ExponentText FloatTail FloatText)

namespace Decimal

private theorem digits_eq (d : Decimal) :
    (toString d.digits).toList = Nat.toDigits 10 d.digits := by
  rw [Nat.toString_eq_ofList_toDigits, String.toList_ofList]

private theorem allDigits_replicate (n : Nat) : AllDigits (List.replicate n '0') := by
  intro c hc
  rw [(List.mem_replicate.mp hc).2]
  rfl

private theorem allDigits_append {a b : List Char} (ha : AllDigits a) (hb : AllDigits b) :
    AllDigits (a ++ b) := by
  intro c hc
  exact (List.mem_append.mp hc).elim (ha c) (hb c)

theorem floatText_positional (d : Decimal) : FloatText (d.positionalText true).toList := by
  have hall := Json.allDigits_toDigits d.digits
  have hne : Nat.toDigits 10 d.digits ≠ [] := Nat.toDigits_ne_nil
  have hfraction {digits : List Char} (hd : AllDigits digits) : FloatTail ('.' :: digits) := by
    have htail := FloatTail.fraction hd .none
    rwa [List.append_nil] at htail
  simp only [positionalText]
  split
  · -- a whole number
    refine ⟨Nat.toDigits 10 d.digits ++ List.replicate d.exponent.toNat '0', ['.', '0'],
      by simp [hne], allDigits_append hall (allDigits_replicate _), ?_, ?_⟩
    · exact hfraction (by intro c hc; rw [List.mem_singleton.mp hc]; rfl)
    · rw [if_pos trivial, String.toList_append, String.toList_append, digits_eq]
      exact congrArg (Nat.toDigits 10 d.digits ++ · ++ ['.', '0']) String.toList_ofList
  · split
    · next hbefore =>
      -- the point stands between the digits
      rw [String.toList_ofList, digits_eq]
      refine ⟨_, _, ?_, fun c hc => hall c (List.mem_of_mem_take hc),
        hfraction (fun c hc => hall c (List.mem_of_mem_drop hc)), rfl⟩
      rw [ne_eq, List.take_eq_nil_iff, not_or]
      exact ⟨by omega, hne⟩
    · -- zeros stand between the point and the digits
      rw [String.toList_append, String.toList_append, digits_eq]
      refine ⟨['0'], _, List.cons_ne_nil _ _, ?_, hfraction (allDigits_append
        (allDigits_replicate (-((toString d.digits).length + d.exponent)).toNat) hall), ?_⟩
      · intro c hc
        rw [List.mem_singleton.mp hc]
        rfl
      · exact congrArg ('0' :: '.' :: · ++ Nat.toDigits 10 d.digits) String.toList_ofList

private theorem exponentText_eq (e : Int) :
    ∃ text, ExponentText text ∧
      ("e" ++ (if (true && decide (0 ≤ e)) = true then "+" else "") ++ toString e).toList =
        text := by
  refine ⟨_, ?_, rfl⟩
  rw [Int.toString_eq_repr, Int.repr_eq_if]
  by_cases he : 0 ≤ e
  · rw [if_pos (by simpa using he), if_pos he, String.toList_append, String.toList_append,
      Nat.toList_repr]
    exact .up (Json.allDigits_toDigits _)
  · rw [if_neg (by simpa using he), if_neg he, String.toList_append, String.toList_append,
      String.toList_append, Nat.toList_repr]
    exact .down (Json.allDigits_toDigits _)

theorem floatText_exponent (d : Decimal) : FloatText (d.exponentText true).toList := by
  have hall := Json.allDigits_toDigits d.digits
  obtain ⟨exponent, he, heq⟩ := exponentText_eq d.leadingExponent
  have hne : exponent ≠ [] := by
    rintro rfl
    simp at heq
  have hone {c : Char} (hc : c.isDigit = true) : AllDigits [c] := by
    intro c' hc'
    rw [List.mem_singleton.mp hc', hc]
  simp only [exponentText, digits_eq]
  rw [String.append_assoc, String.append_assoc,
    ← @String.append_assoc "e", String.toList_append, heq]
  cases hdigits : Nat.toDigits 10 d.digits with
  | nil => exact absurd hdigits Nat.toDigits_ne_nil
  | cons first rest =>
    rw [hdigits] at hall
    have hfirst := hone (hall first List.mem_cons_self)
    cases rest with
    | nil => exact ⟨[first], exponent, List.cons_ne_nil _ _, hfirst, .exponent he hne, by simp⟩
    | cons second rest =>
      have hrest : AllDigits (second :: rest) := fun c hc => hall c (List.mem_cons_of_mem first hc)
      exact ⟨[first], _, List.cons_ne_nil _ _, hfirst, .fraction hrest he, by simp⟩

end Decimal

namespace Layout

/-- The text of a finite float inside JSON text. -/
theorem floatText_data {x : Float} {b : Binary} (h : Binary.ofFloat? x = some b) :
    ∃ text, FloatText text ∧
      ((data.text x).toList = text ∨ (data.text x).toList = '-' :: text) := by
  have hmagnitude : FloatText (data.magnitude b).toList := by
    simp only [magnitude]
    split
    · exact Decimal.floatText_positional _
    · exact Decimal.floatText_exponent _
  refine ⟨_, hmagnitude, ?_⟩
  simp only [text, h, String.toList_append]
  split
  · exact .inr rfl
  · exact .inl rfl

end Layout

namespace Json

/-- The float that is read from the text of a float, if any. -/
def rereadNumber (x : Float) : Option Float :=
  match readSigned ⟨(Layout.data.text x).toList, ⟨1, 0⟩⟩ with
  | .ok (.number y, _) => some y
  | _ => none

/-- Reading the text of a finite float, whatever follows, gives the float that is reread, and fails
if there is none. -/
theorem readSigned_float {more : List Char} (h : Ended more) {x : Float} {b : Binary}
    (hx : Binary.ofFloat? x = some b) (mark : Mark) :
    (rereadNumber x = none ∧
      ∃ fault, readSigned ⟨(Layout.data.text x).toList ++ more, mark⟩ = .error fault) ∨
      ∃ y mark', rereadNumber x = some y ∧
        readSigned ⟨(Layout.data.text x).toList ++ more, mark⟩ =
          .ok (.number y, ⟨more, mark'⟩) := by
  obtain ⟨text, hfloat, htext⟩ := Layout.floatText_data hx
  have hne : (Layout.data.text x).toList ≠ [] := by
    obtain ⟨digits, tail, hdigits, -, -, rfl⟩ := hfloat.split
    rcases htext with htext | htext <;> simp [htext, hdigits]
  have halone : ReadsFloat (readSigned ⟨(Layout.data.text x).toList, ⟨1, 0⟩⟩) := by
    rcases htext with htext | htext
    · obtain ⟨digits, tail, hdigits, hall, -, rfl⟩ := hfloat.split
      obtain ⟨c, rest, rfl⟩ := List.exists_cons_of_ne_nil hdigits
      have hc : c ≠ '-' := by
        rintro rfl
        exact absurd (hall '-' List.mem_cons_self) (by decide)
      rw [htext, List.cons_append, readSigned_plus hc]
      exact readNumber_floatText false hfloat _
    · rw [htext]
      exact readNumber_floatText true hfloat _
  have hmore := readSigned_append h hne ⟨1, 0⟩ mark
  unfold rereadNumber
  cases hread : readSigned ⟨(Layout.data.text x).toList, ⟨1, 0⟩⟩ with
  | error fault =>
    rw [hread] at hmore
    exact .inl ⟨rfl, hmore⟩
  | ok result =>
    obtain ⟨amount, after⟩ := result
    obtain ⟨hrest, y, rfl⟩ := halone amount after hread
    rw [hread] at hmore
    obtain ⟨mark', heq⟩ := hmore
    rw [hrest, List.nil_append] at heq
    exact .inr ⟨y, mark', rfl, heq⟩

end Json

end Gamebook
