import Gamebook.Json.Reader

/-!
# Reading back blanks and string literals

Blanks in front of a value are skipped. A string literal that `Json.quote` writes reads back as the
text, and reading goes on behind its closing quote.

* `Json.Cursor.rest_skipBlanks` : where skipping blanks ends.
* `Json.readString_escape` : string literals read back.
-/

namespace Gamebook

namespace Json

/-! ## Blanks -/

/-- The characters that may stand between the parts of a value. -/
def IsBlank (c : Char) : Prop := c = ' ' ∨ c = '\n' ∨ c = '\t' ∨ c = '\r'

/-- The text does not begin with a blank. -/
def Solid (text : List Char) : Prop := ∀ c ∈ text.head?, ¬ IsBlank c

theorem solid_cons {c : Char} (h : ¬ IsBlank c) (text : List Char) : Solid (c :: text) := by
  rintro c' ⟨rfl⟩
  exact h

namespace Cursor

theorem skipBlanks_solid {at_ : Cursor} (h : Solid at_.rest) : at_.skipBlanks = at_ := by
  obtain ⟨rest, mark⟩ := at_
  cases rest with
  | nil => rfl
  | cons c rest => exact if_neg (h c rfl)

/-- Skipping blanks ends in front of what is no blank. -/
theorem rest_skipBlanks {blanks text : List Char} (hb : ∀ c ∈ blanks, IsBlank c)
    (ht : Solid text) (mark : Mark) :
    ∃ mark', skipBlanks ⟨blanks ++ text, mark⟩ = ⟨text, mark'⟩ := by
  induction blanks generalizing mark with
  | nil => exact ⟨mark, skipBlanks_solid ht⟩
  | cons c blanks ih =>
    obtain ⟨mark', heq⟩ := ih (fun c' hc' => hb c' (List.mem_cons_of_mem c hc')) (mark.after c)
    exact ⟨mark', (if_pos (hb c List.mem_cons_self)).trans heq⟩

end Cursor

/-! ## String literals -/

theorem hexValue?_hexDigit {n : Nat} (h : n < 16) : hexValue? (hexDigit n) = some n := by
  revert n
  decide

/-- The escape of a control character reads back as that character. -/
theorem readUnicode_escape {c : Char} (h : c.toNat < 32) (rest : List Char) (mark : Mark) :
    ∃ mark', readUnicode
      ⟨'0' :: '0' :: hexDigit (c.toNat / 16) :: hexDigit (c.toNat % 16) :: rest, mark⟩ =
        .ok (c, ⟨rest, mark'⟩) := by
  have hzero : hexValue? '0' = some 0 := rfl
  have hhigh : hexValue? (hexDigit (c.toNat / 16)) = some (c.toNat / 16) :=
    hexValue?_hexDigit (by omega)
  have hlow : hexValue? (hexDigit (c.toNat % 16)) = some (c.toNat % 16) :=
    hexValue?_hexDigit (by omega)
  have hcode : ((0 * 16 + 0) * 16 + c.toNat / 16) * 16 + c.toNat % 16 = c.toNat := by omega
  have hplain : ¬ (0xdc00 ≤ c.toNat ∧ c.toNat ≤ 0xdfff) := by omega
  have hsmall : c.toNat < 0xd800 ∨ 0xdbff < c.toNat := by omega
  refine ⟨['0', '0', hexDigit (c.toNat / 16), hexDigit (c.toNat % 16)].foldl Mark.after mark, ?_⟩
  simp only [readUnicode, readHex, hzero, hhigh, hlow, hcode, bind, Except.bind, if_neg hplain,
    if_pos hsmall, Char.ofNat_toNat]

/-- What a character is written as reads back as that character, in one round. -/
theorem readString_escapeChar (fuel : Nat) (taken : List Char) (c : Char) (rest : List Char)
    (mark : Mark) : ∃ mark', readString (fuel + 1) taken ⟨escapeChar c ++ rest, mark⟩ =
      readString fuel (c :: taken) ⟨rest, mark'⟩ := by
  unfold escapeChar
  split
  · next h => subst h; exact ⟨_, rfl⟩
  · next hquote =>
    split
    · next h => subst h; exact ⟨_, rfl⟩
    · next hslash =>
      -- the escapes that have a letter of their own
      split
      · next h => subst h; exact ⟨_, rfl⟩
      split
      · next h => subst h; exact ⟨_, rfl⟩
      split
      · next h => subst h; exact ⟨_, rfl⟩
      split
      · next h => subst h; exact ⟨_, rfl⟩
      split
      · next h => subst h; exact ⟨_, rfl⟩
      split
      · next hcontrol =>
        obtain ⟨mark', hread⟩ := readUnicode_escape hcontrol rest ((mark.after '\\').after 'u')
        refine ⟨mark', ?_⟩
        simp only [List.cons_append, List.nil_append, readString, readEscape, Cursor.step, hread,
          bind, Except.bind]
      · next hplain =>
        refine ⟨mark.after c, ?_⟩
        rw [List.singleton_append, readString]
        split
        · next h => cases h
        · next h => cases h; exact absurd rfl hquote
        · next h => cases h; exact absurd rfl hslash
        · next h =>
          cases h
          rw [if_neg hplain]
          rfl

theorem escapeChar_ne_nil (c : Char) : escapeChar c ≠ [] := by
  unfold escapeChar
  repeat' split
  all_goals exact List.cons_ne_nil _ _

/-- A string literal reads back, and reading goes on behind it. -/
theorem readString_escape (chars taken rest : List Char) {fuel : Nat}
    (h : (escape chars).length < fuel) (mark : Mark) :
    ∃ mark', readString fuel taken ⟨escape chars ++ '"' :: rest, mark⟩ =
      .ok (String.ofList (taken.reverse ++ chars), ⟨rest, mark'⟩) := by
  induction chars generalizing fuel taken mark with
  | nil =>
    obtain ⟨fuel, rfl⟩ := Nat.exists_eq_succ_of_ne_zero (Nat.ne_zero_of_lt h)
    exact ⟨_, by rw [List.append_nil]; rfl⟩
  | cons c chars ih =>
    obtain ⟨fuel, rfl⟩ := Nat.exists_eq_succ_of_ne_zero (Nat.ne_zero_of_lt h)
    have hfuel : (escape chars).length < fuel := by
      have hpos := List.length_pos_iff.mpr (escapeChar_ne_nil c)
      rw [escape, List.flatMap_cons, List.length_append, ← escape] at h
      omega
    obtain ⟨mark₁, hchar⟩ :=
      readString_escapeChar fuel taken c (escape chars ++ '"' :: rest) mark
    obtain ⟨mark₂, hrest⟩ := ih (c :: taken) hfuel mark₁
    refine ⟨mark₂, ?_⟩
    rw [escape, List.flatMap_cons, ← escape, List.append_assoc, hchar, hrest, List.reverse_cons,
      List.append_assoc]
    rfl

end Json

end Gamebook
