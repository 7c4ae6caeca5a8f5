import Gamebook.Json.Reader

/-!
# Reading back numbers

What is read from a number literal depends on the literal alone: not on where it stands, and not on
what follows, as long as that cannot go on the literal. The literals that are written for integers
read back as those integers.

* `Json.readNumber_append` : what follows a literal does not matter.
* `Json.readSigned_int` : integers read back.
-/

namespace Gamebook

namespace Json

/-! ## What follows a literal -/

/-- The character may stand inside a number literal. -/
def GoesOn (c : Char) : Prop := c.isDigit = true ∨ c ∈ ['.', 'e', 'E', '+', '-']

/-- The text does not go on a number literal that it follows. -/
def Ended (text : List Char) : Prop := ∀ c ∈ text.head?, ¬ GoesOn c

theorem ended_nil : Ended [] := by
  rintro c ⟨⟩

theorem ended_cons {c : Char} (h : ¬ GoesOn c) (text : List Char) : Ended (c :: text) := by
  rintro c' ⟨rfl⟩
  exact h

/-- The second result is the first one for a text that goes on with `more`. -/
def Extends {α : Type} (more : List Char) (result : Except Malformation (α × Cursor))
    (longer : Except Malformation (α × Cursor)) : Prop :=
  match result with
  | .ok (a, after) => ∃ mark, longer = .ok (a, ⟨after.rest ++ more, mark⟩)
  | .error _ => ∃ fault, longer = .error fault

theorem extends_error {α : Type} (more : List Char) (fault fault' : Malformation) :
    Extends (α := α) more (.error fault) (.error fault') := ⟨fault', rfl⟩

variable {more : List Char}

theorem Ended.not_digit (h : Ended more) : ∀ c ∈ more.head?, c.isDigit = false := by
  intro c hc
  exact Bool.eq_false_iff.mpr fun hdigit => h c hc (.inl hdigit)

theorem digitOf?_eq_none {c : Char} (h : c.isDigit = false) : digitOf? c = none :=
  if_neg (by simp [h])

/-! ## Digits -/

theorem rest_skipDigits (at_ : Cursor) :
    (skipDigits at_).rest = at_.rest.dropWhile Char.isDigit := by
  obtain ⟨text, mark⟩ := at_
  change (skipDigits.go mark text).rest = text.dropWhile Char.isDigit
  induction text generalizing mark with
  | nil => rfl
  | cons c text ih =>
    rw [skipDigits.go, List.dropWhile_cons]
    split
    · exact ih _
    · rfl

theorem dropWhile_append_of_not {p : Char → Bool} (h : ∀ c ∈ more.head?, p c = false)
    (text : List Char) : (text ++ more).dropWhile p = text.dropWhile p ++ more := by
  induction text with
  | nil =>
    cases more with
    | nil => rfl
    | cons c more => simp [h c rfl]
  | cons c text ih =>
    rw [List.cons_append, List.dropWhile_cons, List.dropWhile_cons, ih]
    split <;> rfl

theorem skipDigits_append (h : Ended more) (text : List Char) (mark mark' : Mark) :
    ∃ mark'', skipDigits ⟨text ++ more, mark'⟩ =
      ⟨(skipDigits ⟨text, mark⟩).rest ++ more, mark''⟩ := by
  refine ⟨(skipDigits ⟨text ++ more, mark'⟩).mark, ?_⟩
  rw [rest_skipDigits, ← dropWhile_append_of_not h.not_digit]
  exact congrArg (Cursor.mk · _) (rest_skipDigits ⟨text ++ more, mark'⟩)

theorem startsWithDigit_append (h : Ended more) (text : List Char) (mark mark' : Mark) :
    startsWithDigit ⟨text ++ more, mark'⟩ = startsWithDigit ⟨text, mark⟩ := by
  cases text with
  | cons c text => rfl
  | nil =>
    cases more with
    | nil => rfl
    | cons c more => exact h.not_digit c rfl

theorem takeDigits_append (h : Ended more) (significand : Nat) (text : List Char)
    (mark mark' : Mark) :
    ∃ mark'', takeDigits significand ⟨text ++ more, mark'⟩ =
      ((takeDigits significand ⟨text, mark⟩).1, (takeDigits significand ⟨text, mark⟩).2.1,
        ⟨(takeDigits significand ⟨text, mark⟩).2.2.rest ++ more, mark''⟩) := by
  change ∃ mark'', takeDigits.go significand 0 mark' (text ++ more) =
    ((takeDigits.go significand 0 mark text).1, (takeDigits.go significand 0 mark text).2.1,
      ⟨(takeDigits.go significand 0 mark text).2.2.rest ++ more, mark''⟩)
  generalize 0 = count
  induction text generalizing significand count mark mark' with
  | nil =>
    cases more with
    | nil => exact ⟨mark', rfl⟩
    | cons c more =>
      refine ⟨mark', ?_⟩
      simp only [List.nil_append, takeDigits.go, digitOf?_eq_none (h.not_digit c rfl)]
  | cons c text ih =>
    rw [List.cons_append, takeDigits.go, takeDigits.go]
    split
    · split
      · exact ih _ _ _ _
      · exact ⟨mark', rfl⟩
    · exact ⟨mark', rfl⟩

theorem readExponentDigits_append (h : Ended more) (text : List Char) (mark mark' : Mark) :
    ∃ mark'', readExponentDigits ⟨text ++ more, mark'⟩ =
      ((readExponentDigits ⟨text, mark⟩).1,
        ⟨(readExponentDigits ⟨text, mark⟩).2.rest ++ more, mark''⟩) := by
  change ∃ mark'', readExponentDigits.go 0 mark' (text ++ more) =
    ((readExponentDigits.go 0 mark text).1,
      ⟨(readExponentDigits.go 0 mark text).2.rest ++ more, mark''⟩)
  generalize 0 = value
  induction text generalizing value mark mark' with
  | nil =>
    cases more with
    | nil => exact ⟨mark', rfl⟩
    | cons c more =>
      refine ⟨mark', ?_⟩
      simp only [List.nil_append, readExponentDigits.go, digitOf?_eq_none (h.not_digit c rfl)]
  | cons c text ih =>
    rw [List.cons_append, readExponentDigits.go, readExponentDigits.go]
    split
    · split
      · exact ih _ _ _
      · exact ⟨_, rfl⟩
    · exact ⟨_, rfl⟩

/-! ## Literals -/

theorem finish_append (negative : Bool) (numeral : Numeral) (text : List Char)
    (mark mark' : Mark) :
    Extends more (finish negative numeral ⟨text, mark⟩)
      (finish negative numeral ⟨text ++ more, mark'⟩) := by
  unfold finish
  cases numeral.toFloat? with
  | some x => exact ⟨mark', rfl⟩
  | none => exact extends_error more _ _

/-- The digits of an exponent, behind its sign. -/
def readExponentBehind (negative : Bool) (numeral : Numeral) (down : Bool) (digits : Cursor) :
    Except Malformation (Amount × Cursor) :=
  match digits.rest with
  | [] => .error (digits.faultHere .endInValue)
  | _ :: _ =>
    if !startsWithDigit digits then .error (digits.step.faultHere .badNumber)
    else match readExponentDigits digits with
      | (some e, after) =>
        finish negative ⟨numeral.significand, numeral.exponent + (if down then -(e : Int) else e)⟩
          after
      | (none, after) =>
        if numeral.significand ≠ 0 ∧ !down then .error (after.faultHere .numberRange)
        else finish negative ⟨0, 0⟩ (skipDigits after)

theorem readExponentBehind_append (h : Ended more) (negative : Bool) (numeral : Numeral)
    (down : Bool) (text : List Char) (mark mark' : Mark) :
    Extends more (readExponentBehind negative numeral down ⟨text, mark⟩)
      (readExponentBehind negative numeral down ⟨text ++ more, mark'⟩) := by
  cases text with
  | nil =>
    cases more with
    | nil => exact extends_error [] _ _
    | cons c more =>
      have hdigit : startsWithDigit ⟨c :: more, mark'⟩ = false := h.not_digit c rfl
      simp only [readExponentBehind, List.nil_append, hdigit, Bool.not_false, if_true]
      exact extends_error _ _ _
  | cons c text =>
    have hstart := startsWithDigit_append h (c :: text) mark mark'
    obtain ⟨mark'', hread⟩ := readExponentDigits_append h (c :: text) mark mark'
    simp only [readExponentBehind, List.cons_append] at hstart hread ⊢
    rw [hstart, hread]
    split
    · exact extends_error _ _ _
    · split
      · next e after hafter =>
        rw [hafter]
        exact finish_append negative _ after.rest after.mark mark''
      · next after hafter =>
        rw [hafter]
        dsimp only
        split
        · exact extends_error _ _ _
        · obtain ⟨mark₃, hskip⟩ := skipDigits_append h after.rest after.mark mark''
          rw [hskip]
          exact finish_append negative _ (skipDigits after).rest (skipDigits after).mark mark₃

/-- The sign of an exponent, and where its digits begin. -/
def exponentSign (at_ : Cursor) : Bool × Cursor :=
  match at_.rest with
  | '+' :: _ => (false, at_.step)
  | '-' :: _ => (true, at_.step)
  | _ => (false, at_)

theorem readExponent_eq (negative : Bool) (numeral : Numeral) (at_ : Cursor) :
    readExponent negative numeral at_ =
      readExponentBehind negative numeral (exponentSign at_).1 (exponentSign at_).2 := rfl

theorem exponentSign_append (h : Ended more) (text : List Char) (mark mark' : Mark) :
    ∃ mark'', exponentSign ⟨text ++ more, mark'⟩ =
      ((exponentSign ⟨text, mark⟩).1, ⟨(exponentSign ⟨text, mark⟩).2.rest ++ more, mark''⟩) := by
  unfold exponentSign
  cases text with
  | nil =>
    dsimp only [List.nil_append]
    split
    · exact absurd (.inr (by simp)) (h '+' rfl)
    · exact absurd (.inr (by simp)) (h '-' rfl)
    · exact ⟨mark', rfl⟩
  | cons c text =>
    dsimp only [List.cons_append]
    split
    · next heq => cases heq; exact ⟨_, rfl⟩
    · next heq => cases heq; exact ⟨_, rfl⟩
    · next hplus hminus =>
      split
      · next heq => cases heq; exact absurd rfl (hplus _)
      · next heq => cases heq; exact absurd rfl (hminus _)
      · exact ⟨mark', rfl⟩

theorem readExponent_append (h : Ended more) (negative : Bool) (numeral : Numeral)
    (text : List Char) (mark mark' : Mark) :
    Extends more (readExponent negative numeral ⟨text, mark⟩)
      (readExponent negative numeral ⟨text ++ more, mark'⟩) := by
  obtain ⟨mark'', hsign⟩ := exponentSign_append h text mark mark'
  rw [readExponent_eq, readExponent_eq, hsign]
  exact readExponentBehind_append h negative numeral _ _ _ mark''

theorem readExponentOrEnd_append (h : Ended more) (negative : Bool) (numeral : Numeral)
    (text : List Char) (mark mark' : Mark) :
    Extends more (readExponentOrEnd negative numeral ⟨text, mark⟩)
      (readExponentOrEnd negative numeral ⟨text ++ more, mark'⟩) := by
  unfold readExponentOrEnd
  cases text with
  | nil =>
    dsimp only [List.nil_append]
    split
    · exact absurd (.inr (by simp)) (h 'e' rfl)
    · exact absurd (.inr (by simp)) (h 'E' rfl)
    · exact finish_append negative numeral [] mark mark'
  | cons c text =>
    dsimp only [List.cons_append]
    split
    · next heq => cases heq; exact readExponent_append h negative numeral text _ _
    · next heq => cases heq; exact readExponent_append h negative numeral text _ _
    · next hlower hupper =>
      split
      · next heq => cases heq; exact absurd rfl (hlower text)
      · next heq => cases heq; exact absurd rfl (hupper text)
      · exact finish_append negative numeral (c :: text) mark mark'

theorem readFraction_append (h : Ended more) (negative : Bool) (numeral : Numeral)
    (text : List Char) (mark mark' : Mark) :
    Extends more (readFraction negative numeral ⟨text, mark⟩)
      (readFraction negative numeral ⟨text ++ more, mark'⟩) := by
  obtain ⟨mark₂, htake⟩ := takeDigits_append h numeral.significand text mark mark'
  simp only [readFraction]
  rw [htake]
  generalize takeDigits numeral.significand ⟨text, mark⟩ = taken
  obtain ⟨significand, count, after⟩ := taken
  dsimp only
  rw [startsWithDigit_append h after.rest after.mark mark₂]
  split
  · obtain ⟨mark₃, hskip⟩ := skipDigits_append h after.rest after.mark mark₂
    rw [hskip]
    exact readExponentOrEnd_append h negative _ (skipDigits after).rest (skipDigits after).mark
      mark₃
  · split
    · split <;> split <;> exact extends_error _ _ _
    · exact readExponentOrEnd_append h negative _ after.rest after.mark mark₂

/-- What a number without fraction and exponent denotes. -/
def whole (negative : Bool) (significand dropped : Nat) (at_ : Cursor) :
    Except Malformation (Amount × Cursor) :=
  if dropped ≠ 0 then finish negative ⟨significand, dropped⟩ at_
  else if !negative then .ok (.int significand, at_)
  else if significand = 0 ∨ 0x8000000000000000 < significand then
    .ok (.number (-(Float.ofNat significand)), at_)
  else .ok (.int (-(significand : Int)), at_)

theorem whole_append (negative : Bool) (significand dropped : Nat) (text : List Char)
    (mark mark' : Mark) :
    Extends more (whole negative significand dropped ⟨text, mark⟩)
      (whole negative significand dropped ⟨text ++ more, mark'⟩) := by
  unfold whole
  split
  · exact finish_append negative _ text mark mark'
  · split
    · exact ⟨mark', rfl⟩
    · split <;> exact ⟨mark', rfl⟩

theorem readNumberRest_eq (negative : Bool) (significand dropped : Nat) (at_ : Cursor) :
    readNumberRest negative significand dropped at_ =
      match at_.rest with
      | '.' :: _ => readFraction negative ⟨significand, dropped⟩ at_.step
      | 'e' :: _ => readExponent negative ⟨significand, dropped⟩ at_.step
      | 'E' :: _ => readExponent negative ⟨significand, dropped⟩ at_.step
      | _ => whole negative significand dropped at_ := rfl

theorem readNumberRest_append (h : Ended more) (negative : Bool) (significand dropped : Nat)
    (text : List Char) (mark mark' : Mark) :
    Extends more (readNumberRest negative significand dropped ⟨text, mark⟩)
      (readNumberRest negative significand dropped ⟨text ++ more, mark'⟩) := by
  rw [readNumberRest_eq, readNumberRest_eq]
  cases text with
  | nil =>
    dsimp only [List.nil_append]
    split
    · exact absurd (.inr (by simp)) (h '.' rfl)
    · exact absurd (.inr (by simp)) (h 'e' rfl)
    · exact absurd (.inr (by simp)) (h 'E' rfl)
    · exact whole_append negative significand dropped [] mark mark'
  | cons c text =>
    dsimp only [List.cons_append]
    split
    · next heq => cases heq; exact readFraction_append h negative _ text _ _
    · next heq => cases heq; exact readExponent_append h negative _ text _ _
    · next heq => cases heq; exact readExponent_append h negative _ text _ _
    · next hpoint hlower hupper =>
      split
      · next heq => cases heq; exact absurd rfl (hpoint text)
      · next heq => cases heq; exact absurd rfl (hlower text)
      · next heq => cases heq; exact absurd rfl (hupper text)
      · exact whole_append negative significand dropped (c :: text) mark mark'

/-- A number that does not begin with zero. -/
def readLeading (negative : Bool) (at_ : Cursor) : Except Malformation (Amount × Cursor) :=
  if startsWithDigit at_ then
    let (significand, _, after) := takeDigits 0 at_
    let behind := skipDigits after
    readNumberRest negative significand (after.rest.length - behind.rest.length) behind
  else .error (at_.step.faultHere .badNumber)

theorem readNumber_zero (negative : Bool) (text : List Char) (mark : Mark) :
    readNumber negative ⟨'0' :: text, mark⟩ =
      if startsWithDigit ⟨text, mark.after '0'⟩ then
        .error (Cursor.faultAhead ⟨text, mark.after '0'⟩ .badNumber)
      else readNumberRest negative 0 0 ⟨text, mark.after '0'⟩ := rfl

theorem readNumber_leading (negative : Bool) {c : Char} (hc : c ≠ '0') (text : List Char)
    (mark : Mark) :
    readNumber negative ⟨c :: text, mark⟩ = readLeading negative ⟨c :: text, mark⟩ := by
  unfold readNumber
  split
  · next heq => cases heq
  · next heq => cases heq; exact absurd rfl hc
  · next heq => cases heq; rfl

theorem readLeading_append (h : Ended more) (negative : Bool) (text : List Char)
    (mark mark' : Mark) :
    Extends more (readLeading negative ⟨text, mark⟩)
      (readLeading negative ⟨text ++ more, mark'⟩) := by
  unfold readLeading
  rw [startsWithDigit_append h text mark mark']
  split
  · obtain ⟨mark₂, htake⟩ := takeDigits_append h 0 text mark mark'
    rw [htake]
    generalize takeDigits 0 ⟨text, mark⟩ = taken
    obtain ⟨significand, count, after⟩ := taken
    dsimp only
    obtain ⟨mark₃, hskip⟩ := skipDigits_append h after.rest after.mark mark₂
    rw [hskip]
    simp only [List.length_append, Nat.add_sub_add_right]
    exact readNumberRest_append h negative _ _ (skipDigits after).rest (skipDigits after).mark mark₃
  · exact extends_error _ _ _

/-- What follows a number literal does not matter, nor where the literal stands. -/
theorem readNumber_append (h : Ended more) (negative : Bool) (text : List Char)
    (mark mark' : Mark) :
    Extends more (readNumber negative ⟨text, mark⟩)
      (readNumber negative ⟨text ++ more, mark'⟩) := by
  cases text with
  | nil =>
    cases more with
    | nil => exact extends_error _ _ _
    | cons c more =>
      have hzero : c ≠ '0' := by
        rintro rfl
        exact h '0' rfl (.inl rfl)
      rw [List.nil_append, readNumber_leading negative hzero, readLeading,
        show startsWithDigit ⟨c :: more, mark'⟩ = false from h.not_digit c rfl]
      exact extends_error _ _ _
  | cons c text =>
    rw [List.cons_append]
    by_cases hc : c = '0'
    · subst hc
      rw [readNumber_zero, readNumber_zero]
      have hstart := startsWithDigit_append h text (mark.after '0') (mark'.after '0')
      cases hdigit : startsWithDigit ⟨text, mark.after '0'⟩ with
      | true =>
        rw [if_pos rfl, if_pos (hstart.trans hdigit)]
        exact extends_error _ _ _
      | false =>
        rw [if_neg Bool.false_ne_true, if_neg (by rw [hstart, hdigit]; exact Bool.false_ne_true)]
        exact readNumberRest_append h negative 0 0 text _ _
    · rw [readNumber_leading negative hc, readNumber_leading negative hc]
      exact readLeading_append h negative (c :: text) mark mark'

/-! ## Integers -/

/-- All characters are decimal digits. -/
def AllDigits (text : List Char) : Prop := ∀ c ∈ text, c.isDigit = true

theorem allDigits_toDigits (n : Nat) : AllDigits (Nat.toDigits 10 n) := fun _ hc =>
  Nat.isDigit_of_mem_toDigits (by decide) (by decide) hc

private theorem le_ofDigitChars (text : List Char) (init : Nat) :
    init ≤ Nat.ofDigitChars 10 text init := by
  induction text generalizing init with
  | nil => simp
  | cons c text ih =>
    rw [Nat.ofDigitChars_cons]
    exact Nat.le_trans (by omega) (ih _)

/-- Digits whose value fits 64 bits are taken to the last. -/
theorem takeDigits_all {text : List Char} (ht : AllDigits text) (significand : Nat)
    (h : Nat.ofDigitChars 10 text significand < 0x10000000000000000) (mark : Mark) :
    ∃ mark', takeDigits significand ⟨text, mark⟩ =
      (Nat.ofDigitChars 10 text significand, text.length, ⟨[], mark'⟩) := by
  have hgo (count : Nat) : ∃ mark', takeDigits.go significand count mark text =
      (Nat.ofDigitChars 10 text significand, count + text.length, ⟨[], mark'⟩) := by
    induction text generalizing significand count mark with
    | nil => exact ⟨mark, rfl⟩
    | cons c text ih =>
      have hdigit : digitOf? c = some (c.toNat - 48) := if_pos (ht c List.mem_cons_self)
      rw [Nat.ofDigitChars_cons, Nat.mul_comm] at h ⊢
      have hfits : fits significand (c.toNat - 48) = true :=
        decide_eq_true (Nat.lt_of_le_of_lt (le_ofDigitChars text _) h)
      obtain ⟨mark', hrest⟩ := ih (fun c' hc' => ht c' (List.mem_cons_of_mem c hc')) _ h
        (mark.after c) (count + 1)
      refine ⟨mark', ?_⟩
      simp only [takeDigits.go, hdigit, hfits, if_true]
      rw [show count + (c :: text).length = count + 1 + text.length by
        rw [List.length_cons]; omega]
      exact hrest
  obtain ⟨mark', heq⟩ := hgo 0
  rw [Nat.zero_add] at heq
  exact ⟨mark', heq⟩

private theorem head?_toDigits {n : Nat} (h : n ≠ 0) :
    ∃ c rest, Nat.toDigits 10 n = c :: rest ∧ c ≠ '0' := by
  induction n using Nat.strongRecOn with
  | ind n ih =>
    rw [Nat.toDigits_eq_if (by decide)]
    split
    · next hlt =>
      have hdigits : ∀ n < 10, n ≠ 0 → Nat.digitChar n ≠ '0' := by decide
      exact ⟨_, [], rfl, hdigits n hlt h⟩
    · next hge =>
      obtain ⟨c, rest, heq, hc⟩ := ih (n / 10) (by omega) (by omega)
      exact ⟨c, rest ++ [(n % 10).digitChar], by rw [heq]; rfl, hc⟩

/-- The digits of an integer are read as that integer. -/
theorem readNumber_toDigits (negative : Bool) {n : Nat} (h : n < 0x10000000000000000)
    (mark : Mark) :
    ∃ mark', readNumber negative ⟨Nat.toDigits 10 n, mark⟩ = whole negative n 0 ⟨[], mark'⟩ := by
  by_cases hn : n = 0
  · subst hn
    exact ⟨_, rfl⟩
  · obtain ⟨c, rest, heq, hc⟩ := head?_toDigits hn
    have hall := allDigits_toDigits n
    have hvalue : Nat.ofDigitChars 10 (Nat.toDigits 10 n) 0 = n := Nat.ofDigitChars_ten_toDigits
    obtain ⟨mark', htake⟩ := takeDigits_all hall 0 (by rwa [hvalue]) mark
    rw [hvalue] at htake
    refine ⟨mark', ?_⟩
    rw [heq] at hall htake ⊢
    have hstart : startsWithDigit ⟨c :: rest, mark⟩ = true := hall c List.mem_cons_self
    rw [readNumber_leading negative hc, readLeading, if_pos hstart, htake]
    rfl

/-- Reads a number with its sign. -/
def readSigned (at_ : Cursor) : Except Malformation (Amount × Cursor) :=
  match at_.rest with
  | '-' :: _ => readNumber true at_.step
  | _ => readNumber false at_

theorem readSigned_plus {c : Char} (hc : c ≠ '-') (text : List Char) (mark : Mark) :
    readSigned ⟨c :: text, mark⟩ = readNumber false ⟨c :: text, mark⟩ := by
  unfold readSigned
  split
  · next heq => cases heq; exact absurd rfl hc
  · rfl

theorem readSigned_append (h : Ended more) {text : List Char} (hne : text ≠ [])
    (mark mark' : Mark) :
    Extends more (readSigned ⟨text, mark⟩) (readSigned ⟨text ++ more, mark'⟩) := by
  cases text with
  | nil => exact absurd rfl hne
  | cons c text =>
    rw [List.cons_append]
    by_cases hc : c = '-'
    · subst hc
      exact readNumber_append h true text _ _
    · rw [readSigned_plus hc, readSigned_plus hc]
      exact readNumber_append h false (c :: text) mark mark'

/-- The text of an integer begins with a sign or a digit. -/
theorem toList_toString (n : Int) :
    (0 ≤ n ∧ (toString n).toList = Nat.toDigits 10 n.toNat) ∨
      (n < 0 ∧ (toString n).toList = '-' :: Nat.toDigits 10 (-n).toNat) := by
  rw [Int.toString_eq_repr, Int.repr_eq_if]
  split
  · next h => exact .inl ⟨h, Nat.toList_repr⟩
  · next h =>
    rw [String.toList_append, Nat.toList_repr]
    exact .inr ⟨by omega, rfl⟩

/-- An integer that fits 64 bits reads back, whatever follows. -/
theorem readSigned_int (h : Ended more) {n : Int} (hlow : -0x8000000000000000 ≤ n)
    (hhigh : n < 0x10000000000000000) (mark : Mark) :
    ∃ mark', readSigned ⟨(toString n).toList ++ more, mark⟩ = .ok (.int n, ⟨more, mark'⟩) := by
  have halone : ∃ mark', readSigned ⟨(toString n).toList, mark⟩ = .ok (.int n, ⟨[], mark'⟩) := by
    obtain ⟨hn, htext⟩ | ⟨hn, htext⟩ := toList_toString n
    · obtain ⟨c, rest, hdigits⟩ := List.exists_cons_of_ne_nil
        (Nat.toDigits_ne_nil (b := 10) (n := n.toNat))
      have hc : c ≠ '-' := by
        rintro rfl
        have hdigit := allDigits_toDigits n.toNat '-' (by rw [hdigits]; exact List.mem_cons_self)
        exact absurd hdigit (by decide)
      obtain ⟨mark', hread⟩ := readNumber_toDigits false (n := n.toNat) (by omega) mark
      refine ⟨mark', ?_⟩
      rw [htext, hdigits, readSigned_plus hc, ← hdigits, hread, whole, if_neg (by simp),
        if_pos (by rfl), Int.toNat_of_nonneg hn]
    · obtain ⟨mark', hread⟩ :=
        readNumber_toDigits true (n := (-n).toNat) (by omega) (mark.after '-')
      refine ⟨mark', ?_⟩
      rw [htext]
      change readNumber true ⟨Nat.toDigits 10 (-n).toNat, mark.after '-'⟩ = _
      rw [hread, whole, if_neg (by simp), if_neg (by decide), if_neg (by omega),
        Int.toNat_of_nonneg (by omega), Int.neg_neg]
  obtain ⟨mark', halone⟩ := halone
  have hne : (toString n).toList ≠ [] := by
    obtain ⟨-, htext⟩ | ⟨-, htext⟩ := toList_toString n
    · rw [htext]
      exact Nat.toDigits_ne_nil
    · rw [htext]
      exact List.cons_ne_nil _ _
  have hmore := readSigned_append h hne mark mark
  rwa [halone] at hmore

end Json

end Gamebook
