import Gamebook.Proofs.Json.Written

/-!
# String literals in lines

A string literal contains no line break, and different texts have different literals. In a line a
literal may stand behind a text that is not quoted and a bar. The two can be told apart whatever the
text is, because inside a literal no quote follows a bar.

* `Json.lineFeed_notMem_quote` : no line breaks.
* `Json.quote_inj` : different texts have different literals.
* `Json.bar_quote_inj` : a text, a bar and a literal can be told apart.
-/

namespace Gamebook

namespace Json

/-! ## Characters -/

theorem hexDigit_ne {n : Nat} (h : n < 16) : '\n' ≠ hexDigit n ∧ '|' ≠ hexDigit n := by
  revert n
  decide

/-- A character is escaped by a backslash and what contains neither line breaks nor bars, or it
stands for itself. -/
theorem escapeChar_cases (c : Char) :
    (∃ rest, escapeChar c = '\\' :: rest ∧ '\n' ∉ rest ∧ '|' ∉ rest) ∨
      (escapeChar c = [c] ∧ c ≠ '"' ∧ c ≠ '\n') := by
  unfold escapeChar
  split
  · exact .inl ⟨_, rfl, by decide, by decide⟩
  · next hquote =>
    split
    · exact .inl ⟨_, rfl, by decide, by decide⟩
    split
    · exact .inl ⟨_, rfl, by decide, by decide⟩
    · next hbreak =>
      iterate 4
        split
        · exact .inl ⟨_, rfl, by decide, by decide⟩
      split
      · next hcontrol =>
        have hhigh := hexDigit_ne (show c.toNat / 16 < 16 by omega)
        have hlow := hexDigit_ne (show c.toNat % 16 < 16 by omega)
        exact .inl ⟨_, rfl, by simp [hhigh, hlow], by simp [hhigh, hlow]⟩
      · exact .inr ⟨rfl, hquote, hbreak⟩

/-! ## Inside a literal -/

theorem escape_cons (c : Char) (cs : List Char) : escape (c :: cs) = escapeChar c ++ escape cs :=
  List.flatMap_cons

theorem lineFeed_notMem_escape (cs : List Char) : '\n' ∉ escape cs := by
  induction cs with
  | nil => exact List.not_mem_nil
  | cons c cs ih =>
    rw [escape_cons, List.mem_append, not_or]
    refine ⟨?_, ih⟩
    obtain ⟨rest, hescape, hbreak, -⟩ | ⟨hescape, -, hbreak⟩ := escapeChar_cases c
    · rw [hescape, List.mem_cons, not_or]
      exact ⟨by decide, hbreak⟩
    · rw [hescape, List.mem_singleton]
      exact Ne.symm hbreak

/-- The inside does not begin with a quote. -/
theorem escape_ne_quote (cs after : List Char) : escape cs ≠ '"' :: after := by
  cases cs with
  | nil => exact List.cons_ne_nil _ _ ∘ Eq.symm
  | cons c cs =>
    intro h
    rw [escape_cons] at h
    obtain ⟨rest, hescape, -⟩ | ⟨hescape, hquote, -⟩ := escapeChar_cases c
    · rw [hescape] at h
      exact absurd (List.cons.inj h).1 (by decide)
    · rw [hescape] at h
      exact hquote (List.cons.inj h).1

/-- Inside, no quote follows a bar. -/
theorem escape_ne_bar_quote (cs before after : List Char) :
    escape cs ≠ before ++ '|' :: '"' :: after := by
  induction cs generalizing before with
  | nil =>
    intro h
    exact List.append_ne_nil_of_right_ne_nil before (List.cons_ne_nil _ _) h.symm
  | cons c cs ih =>
    intro h
    rw [escape_cons, List.append_eq_append_iff] at h
    obtain ⟨more, -, hrest⟩ | ⟨more, hfirst, hrest⟩ := h
    · exact ih more hrest
    · cases more with
      | nil => exact ih [] hrest.symm
      | cons d more =>
        -- the bar is in what the first character is written as
        obtain ⟨rfl, hbehind⟩ := List.cons.inj hrest
        obtain ⟨rest, hescape, -, hbar⟩ | ⟨hescape, -, -⟩ := escapeChar_cases c
        · have hmem : '|' ∈ '\\' :: rest := by
            rw [← hescape, hfirst]
            exact List.mem_append_right before List.mem_cons_self
          exact hbar ((List.mem_cons.mp hmem).resolve_left (by decide))
        · rw [hescape] at hfirst
          have hlength := congrArg List.length hfirst
          rw [List.length_singleton, List.length_append, List.length_cons] at hlength
          obtain rfl : more = [] := List.eq_nil_of_length_eq_zero (by omega)
          exact escape_ne_quote cs after hbehind.symm

/-- Different texts differ inside their literals, because the literals read back. -/
theorem escape_inj {cs ds : List Char} (h : escape cs = escape ds) : cs = ds := by
  obtain ⟨_, hleft⟩ := readString_escape cs [] [] (Nat.lt_succ_self _) ⟨1, 0⟩
  obtain ⟨_, hright⟩ := readString_escape ds [] [] (Nat.lt_succ_self _) ⟨1, 0⟩
  rw [h, hright] at hleft
  have htexts := (Prod.mk.inj (Except.ok.inj hleft)).1
  exact (String.ofList_injective htexts).symm

/-! ## Literals -/

theorem lineFeed_notMem_quote (s : String) : '\n' ∉ (quote s).toList := by
  rw [toList_quote]
  simp [lineFeed_notMem_escape]

theorem quote_inj {s t : String} (h : quote s = quote t) : s = t := by
  have hlist := congrArg String.toList h
  rw [toList_quote, toList_quote, List.cons.injEq] at hlist
  exact String.toList_inj.mp (escape_inj (List.append_cancel_right hlist.2))

/-- A bar and what follows the quote of a literal hold no second bar with a quote. -/
theorem eq_nil_of_bar_quote {cs before after : List Char}
    (h : '|' :: '"' :: escape cs = before ++ '|' :: '"' :: after) : before = [] := by
  match before, h with
  | [], _ => rfl
  | [_], h => exact absurd (List.cons.inj (List.cons.inj h).2).1 (by decide)
  | _ :: _ :: rest, h =>
    exact absurd (List.cons.inj (List.cons.inj h).2).2 (escape_ne_bar_quote cs rest after)

/-- A text, a bar and a literal can be told apart, whatever is in the text: it ends in front of the
last quote that follows a bar. -/
theorem bar_quote_inj {x y s t : String} (h : x ++ "|" ++ quote s = y ++ "|" ++ quote t) :
    x = y ∧ s = t := by
  have hchars (x s : String) : (x ++ "|" ++ quote s).toList =
      x.toList ++ '|' :: '"' :: escape s.toList ++ ['"'] := by
    simp [toList_quote]
  have hlist := congrArg String.toList h
  rw [hchars, hchars, List.append_left_inj] at hlist
  have hsame : x.toList = y.toList := by
    obtain ⟨more, hy, hrest⟩ | ⟨more, hx, hrest⟩ := List.append_eq_append_iff.mp hlist
    · rw [hy, eq_nil_of_bar_quote hrest, List.append_nil]
    · rw [hx, eq_nil_of_bar_quote hrest, List.append_nil]
  rw [hsame, List.append_right_inj, List.cons_inj_right, List.cons_inj_right] at hlist
  exact ⟨String.toList_inj.mp hsame, String.toList_inj.mp (escape_inj hlist)⟩

end Json

end Gamebook
