import Gamebook.Proofs.Json.Numbers
import Gamebook.Proofs.LineGames
import Mathlib.Data.List.Dedup

/-!
# Picking options in line mode

A line names an option by the number that is printed beside it or by its id. Lines are read as
commands first and as numbers next, so the number always works, and the id unless it looks like one
of these.

* `typedNumber?_toString` : a printed number is read as this number.
* `LineCommand.ofLine?_eq_none_iff` : a line is a command if it begins with a colon.
* `Boundary.Pickable` : which options lines pick.
* `Boundary.pickable` : every option of a list can be picked, if their ids differ.
-/

namespace Gamebook

/-! ## Lines -/

namespace Text

theorem length_dropEndWhile_le (p : Char → Bool) (cs : List Char) :
    (dropEndWhile p cs).length ≤ cs.length := by
  rw [dropEndWhile, List.length_reverse]
  calc (cs.reverse.dropWhile p).length
      ≤ cs.reverse.length := (List.dropWhile_sublist p).length_le
    _ = cs.length := List.length_reverse

/-- A text that trimming leaves alone does not begin with a blank. -/
theorem not_isBlankChar_of_trim {s : String} (h : trim s = s) {c : Char} {rest : List Char}
    (hs : s.toList = c :: rest) : isBlankChar c = false := by
  refine Bool.eq_false_iff.mpr fun hblank => ?_
  have hlength : (trim s).toList.length ≤ rest.length := by
    rw [trim, String.toList_ofList, hs, List.dropWhile_cons_of_pos hblank]
    exact Nat.le_trans (length_dropEndWhile_le _ _) (List.dropWhile_sublist _).length_le
  rw [h, hs, List.length_cons] at hlength
  omega

/-- Trimming leaves a text without blanks alone. -/
theorem trim_of_forall {s : String} (h : ∀ c ∈ s.toList, isBlankChar c = false) : trim s = s := by
  have hkeep : ∀ cs : List Char, (∀ c ∈ cs, isBlankChar c = false) →
      cs.dropWhile isBlankChar = cs := by
    rintro (_ | ⟨c, cs⟩) hcs
    · rfl
    · rw [List.dropWhile_cons_of_neg]
      rw [hcs c List.mem_cons_self]
      exact Bool.false_ne_true
  rw [trim, dropEndWhile, hkeep _ h, hkeep _ fun c hc => h c (List.mem_reverse.mp hc),
    List.reverse_reverse, String.ofList_toList]

/-- The first word of a text that does not begin with a blank begins as the text does. -/
theorem words_cons {s : String} {c : Char} {rest : List Char} (hs : s.toList = c :: rest)
    (hc : isBlankChar c = false) :
    ∃ word more, words s = String.ofList (c :: word) :: more := by
  obtain ⟨piece, pieces, hpieces⟩ :
      ∃ piece pieces, splitAt isBlankChar (c :: rest) = (c :: piece) :: pieces := by
    rw [splitAt, hc]
    cases splitAt isBlankChar rest with
    | nil => exact ⟨_, _, rfl⟩
    | cons piece pieces => exact ⟨_, _, rfl⟩
  rw [words, hs, hpieces, List.filter_cons_of_pos rfl]
  exact ⟨_, _, rfl⟩

theorem startsWith_colon (c : Char) (rest : List Char) :
    startsWith ":" (String.ofList (c :: rest)) = decide (c = ':') := by
  have hgo : afterStart?.go [':'] (c :: rest) = if ':' = c then some rest else none := rfl
  rw [startsWith, afterStart?, show ":".toList = [':'] from rfl, String.toList_ofList, hgo]
  by_cases hc : c = ':'
  · subst hc
    rfl
  · rw [if_neg (Ne.symm hc), decide_eq_false hc]
    rfl

end Text

/-- A line that does not begin with a blank is a command if it begins with a colon. -/
theorem LineCommand.ofLine?_eq_none_iff {line : String} {c : Char} {rest : List Char}
    (hline : line.toList = c :: rest) (hc : isBlankChar c = false) :
    LineCommand.ofLine? line = none ↔ c ≠ ':' := by
  obtain ⟨word, more, hwords⟩ := Text.words_cons hline hc
  rw [LineCommand.ofLine?, hwords]
  dsimp only
  rw [Text.startsWith_colon]
  by_cases hcolon : c = ':'
  · simp [hcolon]
  · simp [hcolon]

/-! ## Numbers -/

theorem isBlankChar_of_isDigit {c : Char} (h : c.isDigit = true) : isBlankChar c = false := by
  simp only [Char.isDigit, Bool.and_eq_true, decide_eq_true_eq, UInt32.le_iff_toNat_le] at h
  obtain ⟨hlow, hhigh⟩ : 48 ≤ c.toNat ∧ c.toNat ≤ 57 := h
  refine Bool.eq_false_iff.mpr fun hblank => ?_
  simp only [isBlankChar, Bool.or_eq_true, Bool.and_eq_true, decide_eq_true_eq, beq_iff_eq]
    at hblank
  omega

/-- Digits are read as the number that they write. -/
theorem typedNumber?_ofList {c : Char} {rest : List Char} (h : Json.AllDigits (c :: rest)) {n : Nat}
    (hvalue : Nat.ofDigitChars 10 (c :: rest) 0 = n) (hn : n < 0x10000000000000000) :
    typedNumber? (String.ofList (c :: rest)) = some n := by
  have hplus : c ≠ '+' := by
    rintro rfl
    have hdigit := h '+' List.mem_cons_self
    cases hdigit
  have hall : (c :: rest).all Char.isDigit = true := List.all_eq_true.mpr h
  have hfold : (c :: rest).foldl (fun n c => 10 * n + (c.toNat - 48)) 0 = n := hvalue
  rw [typedNumber?, String.toList_ofList]
  split
  · next heq => exact absurd (List.cons.inj heq).1 hplus
  · rw [hfold, hall, if_neg (by simpa using hn)]

/-- A number as it is printed is read as this number. -/
theorem typedNumber?_toString {n : Nat} (h : n < 0x10000000000000000) :
    typedNumber? (toString n) = some n := by
  have hdigits := Json.allDigits_toDigits n
  have hvalue : Nat.ofDigitChars 10 (Nat.toDigits 10 n) 0 = n := Nat.ofDigitChars_ten_toDigits
  rw [Nat.toString_eq_ofList_toDigits]
  cases htext : Nat.toDigits 10 n with
  | nil => exact absurd htext Nat.toDigits_ne_nil
  | cons c rest =>
    rw [htext] at hdigits hvalue
    exact typedNumber?_ofList hdigits hvalue h

/-- Commands do not choose. -/
theorem LineMode.commanded?_ne_choose (command : LineCommand) (optionId : String) :
    commanded? command ≠ some (.choose optionId) := by
  rcases command with _ | _ | _ | _ | _ | ⟨_ | event, args⟩ | _ | word
  all_goals exact fun h => nomatch h

namespace Boundary

/-! ## Rows -/

/-- The rows of the options are the last that are printed. -/
def rows (boundary : Boundary) : List String :=
  boundary.printed.drop (boundary.printed.length - boundary.offers.length)

@[simp] theorem length_numbered (n : Nat) (offers : List Offer) :
    (numbered n offers).length = offers.length := by
  induction offers generalizing n with
  | nil => rfl
  | cons offer rest ih => simp [numbered, ih]

theorem getElem?_numbered (n : Nat) (offers : List Offer) (i : Nat) :
    (numbered n offers)[i]? =
      offers[i]?.map fun offer => "  [" ++ toString (n + i) ++ "] " ++ offer.text := by
  induction offers generalizing n i with
  | nil => rfl
  | cons offer rest ih =>
    cases i with
    | zero => rfl
    | succ i =>
      rw [numbered, List.getElem?_cons_succ, List.getElem?_cons_succ, ih,
        show n + 1 + i = n + (i + 1) by omega]

theorem rows_eq (boundary : Boundary) : boundary.rows = numbered 1 boundary.offers := by
  rw [rows, printed, List.length_append, length_numbered, Nat.add_sub_cancel, List.drop_left]

/-! ## Picking -/

variable {boundary : Boundary} {raw line : String}

/-- What reads as the number of an option picks it. -/
theorem pick?_number {n : Nat} {offer : Offer} (hnumber : typedNumber? raw = some (n + 1))
    (hoffer : boundary.offers[n]? = some offer) : boundary.pick? raw = some offer.id := by
  rw [pick?, hnumber]
  dsimp only
  rw [if_neg (Nat.succ_ne_zero n), Nat.add_sub_cancel, hoffer]
  rfl

/-- What does not read as a number picks the option with this id. -/
theorem pick?_id {offer : Offer} (hoffer : offer ∈ boundary.offers)
    (hid : typedNumber? offer.id = none) : boundary.pick? offer.id = some offer.id := by
  rw [pick?, hid]
  cases hfind : boundary.offers.find? (fun other => other.id == offer.id) with
  | none => exact absurd (beq_self_eq_true _) (List.find?_eq_none.mp hfind offer hoffer)
  | some found =>
    have hfound := List.find?_some hfind
    exact congrArg some (beq_iff_eq.mp hfound)

/-- Whatever is picked is listed. -/
theorem mem_of_pick? {id : String} (hpick : boundary.pick? raw = some id) :
    ∃ offer ∈ boundary.offers, offer.id = id := by
  rw [pick?] at hpick
  split at hpick
  · split at hpick
    · cases hpick
    · obtain ⟨offer, hoffer, rfl⟩ := Option.map_eq_some_iff.mp hpick
      exact ⟨offer, List.mem_of_getElem? hoffer, rfl⟩
  · obtain ⟨offer, hoffer, rfl⟩ := Option.map_eq_some_iff.mp hpick
    exact ⟨offer, List.mem_of_find?_eq_some hoffer, rfl⟩

/-- A line that is no command picks what it says. -/
theorem deed?_pick (htrim : Text.trim line = line) (hne : line ≠ "")
    (hcolon : Text.startsWith ":" line = false) :
    LineMode.deed? boundary line = (boundary.pick? line).map .choose := by
  obtain ⟨c, rest, hline⟩ := List.exists_cons_of_ne_nil (mt String.toList_eq_nil_iff.mp hne)
  rw [← String.ofList_toList (s := line), hline, Text.startsWith_colon] at hcolon
  have hcommand : LineCommand.ofLine? line = none :=
    (LineCommand.ofLine?_eq_none_iff hline (Text.not_isBlankChar_of_trim htrim hline)).mpr
      (of_decide_eq_false hcolon)
  rw [LineMode.deed?, htrim, hcommand]
  exact if_neg hne

/-- A number is no command. -/
theorem deed?_digits (boundary : Boundary) (n : Nat) :
    LineMode.deed? boundary (toString n) = (boundary.pick? (toString n)).map .choose := by
  have hdigits : ∀ c ∈ (toString n).toList, c.isDigit = true := by
    rw [Nat.toString_eq_ofList_toDigits, String.toList_ofList]
    exact Json.allDigits_toDigits n
  have hne : toString n ≠ "" := by
    rw [Nat.toString_eq_ofList_toDigits]
    exact fun h => Nat.toDigits_ne_nil (String.toList_ofList ▸ congrArg String.toList h)
  refine deed?_pick (Text.trim_of_forall fun c hc => isBlankChar_of_isDigit (hdigits c hc)) hne ?_
  obtain ⟨c, rest, hline⟩ := List.exists_cons_of_ne_nil (mt String.toList_eq_nil_iff.mp hne)
  rw [← String.ofList_toList (s := toString n), hline, Text.startsWith_colon]
  refine decide_eq_false ?_
  rintro rfl
  exact nomatch hdigits ':' (hline ▸ List.mem_cons_self)

/-- Lines choose only what they pick. -/
theorem pick?_of_deed? {id : String} (hdeed : LineMode.deed? boundary line = some (.choose id)) :
    boundary.pick? (Text.trim line) = some id := by
  rw [LineMode.deed?] at hdeed
  split at hdeed
  · exact absurd hdeed (LineMode.commanded?_ne_choose _ _)
  · split at hdeed
    · cases hdeed
    · obtain ⟨picked, hpick, heq⟩ := Option.map_eq_some_iff.mp hdeed
      cases heq
      exact hpick

/-- Which options of a boundary lines pick. -/
structure Pickable (boundary : Boundary) : Prop where
  /-- The number that is printed beside an option picks it. -/
  numbered : ∀ (n : Nat) (offer : Offer), boundary.offers[n]? = some offer →
    boundary.rows[n]? = some ("  [" ++ toString (n + 1) ++ "] " ++ offer.text) ∧
      boundary.pick? (toString (n + 1)) = some offer.id ∧
      LineMode.deed? boundary (toString (n + 1)) = some (.choose offer.id)
  /-- So does whatever else reads as its number, an id as well. -/
  reads : ∀ (raw : String) (n : Nat) (offer : Offer), typedNumber? raw = some (n + 1) →
    boundary.offers[n]? = some offer → boundary.pick? raw = some offer.id
  /-- The id of an option picks it unless it reads as a number. -/
  named : ∀ offer ∈ boundary.offers, typedNumber? offer.id = none →
    boundary.pick? offer.id = some offer.id
  /-- As a line it chooses the option if it does not begin or end with blanks, which are trimmed,
  and does not begin with a colon, as commands do. -/
  typed : ∀ offer ∈ boundary.offers, typedNumber? offer.id = none →
    Text.trim offer.id = offer.id → offer.id ≠ "" → Text.startsWith ":" offer.id = false →
    LineMode.deed? boundary offer.id = some (.choose offer.id)
  /-- Whatever is picked is listed, once. -/
  listed : ∀ (raw id : String), boundary.pick? raw = some id →
    ∃ offer ∈ boundary.offers, offer.id = id ∧
      ∀ other ∈ boundary.offers, other.id = id → other = offer
  /-- Whatever a line chooses is listed, once. -/
  chosen : ∀ (line id : String), LineMode.deed? boundary line = some (.choose id) →
    ∃ offer ∈ boundary.offers, offer.id = id ∧
      ∀ other ∈ boundary.offers, other.id = id → other = offer

/-- Whatever is picked is listed once, if ids differ. -/
theorem unique_of_pick? (hids : (boundary.offers.map Offer.id).Nodup) {id : String}
    (hpick : boundary.pick? raw = some id) :
    ∃ offer ∈ boundary.offers, offer.id = id ∧
      ∀ other ∈ boundary.offers, other.id = id → other = offer := by
  obtain ⟨offer, hmem, rfl⟩ := mem_of_pick? hpick
  exact ⟨offer, hmem, rfl, fun other hother heq =>
    List.inj_on_of_nodup_map hids hother hmem heq⟩

/-- A printed number picks the option that it stands beside. -/
theorem pick?_printed (hlength : boundary.offers.length < 0x10000000000000000) {n : Nat}
    {offer : Offer} (hoffer : boundary.offers[n]? = some offer) :
    boundary.pick? (toString (n + 1)) = some offer.id := by
  obtain ⟨hn, -⟩ := List.getElem?_eq_some_iff.mp hoffer
  exact pick?_number (typedNumber?_toString (by omega)) hoffer

/-- Every option that is shown can be picked, if the ids differ, and if there are no more options
than 64 bits can count. -/
theorem pickable (boundary : Boundary) (hids : (boundary.offers.map Offer.id).Nodup)
    (hlength : boundary.offers.length < 0x10000000000000000) : boundary.Pickable where
  numbered n offer hoffer := by
    refine ⟨?_, pick?_printed hlength hoffer, ?_⟩
    · rw [rows_eq, getElem?_numbered, hoffer, Nat.add_comm 1 n]
      rfl
    · rw [deed?_digits, pick?_printed hlength hoffer]
      rfl
  reads _ _ _ := pick?_number
  named _ := pick?_id
  typed offer hoffer hid htrim hne hcolon := by
    rw [deed?_pick htrim hne hcolon, pick?_id hoffer hid]
    rfl
  listed _ _ := unique_of_pick? hids
  chosen _ _ hdeed := unique_of_pick? hids (pick?_of_deed? hdeed)

/-- A landing with two doors. -/
def landing : Boundary :=
  { sectionId := "landing", title := "Landing"
    offers := [⟨"onward", "Walk in"⟩, ⟨"cellar", "Climb down"⟩] }

/-- The way down can be picked by its number and by its id. -/
theorem pickable_landing :
    landing.rows = ["  [1] Walk in", "  [2] Climb down"] ∧
      landing.pick? "2" = some "cellar" ∧ landing.pick? "cellar" = some "cellar" ∧
      LineMode.deed? landing "2" = some (.choose "cellar") ∧
      LineMode.deed? landing "cellar" = some (.choose "cellar") ∧
      landing.pick? "Walk in" = none := by
  have h := pickable landing (by decide) (by decide)
  have hdown : (⟨"cellar", "Climb down"⟩ : Offer) ∈ landing.offers := by decide
  have hnumber : typedNumber? "cellar" = none := by decide +kernel
  have htwo : toString (1 + 1) = "2" := by decide
  obtain ⟨-, hpick, hdeed⟩ := h.numbered 1 ⟨"cellar", "Climb down"⟩ rfl
  rw [htwo] at hpick hdeed
  have hnamed := h.named ⟨"cellar", "Climb down"⟩ hdown hnumber
  have htyped := h.typed ⟨"cellar", "Climb down"⟩ hdown hnumber (by decide +kernel) (by decide)
    (by decide +kernel)
  exact ⟨by decide +kernel, hpick, hnamed, hdeed, htyped, by decide +kernel⟩

/-- Two doors that are named by each other's numbers. -/
def crossed : Boundary :=
  { sectionId := "crossing", title := "Crossing"
    offers := [⟨"2", "Left"⟩, ⟨"1", "Right"⟩] }

/-- An id that reads as the number of another option does not pick its own option: "2" is the id of
the first door and stands beside the second one. -/
theorem number_before_id :
    ¬ ∀ boundary : Boundary, (boundary.offers.map Offer.id).Nodup →
      (∀ (n : Nat) (offer : Offer), boundary.offers[n]? = some offer →
        boundary.pick? (toString (n + 1)) = some offer.id) ∧
      (∀ offer ∈ boundary.offers, boundary.pick? offer.id = some offer.id) ∧
      ∀ (raw id : String), boundary.pick? raw = some id →
        ∃ offer ∈ boundary.offers, offer.id = id := by
  intro h
  obtain ⟨-, hid, -⟩ := h crossed (by decide)
  exact absurd (hid ⟨"2", "Left"⟩ (by decide)) (by decide)

end Boundary

end Gamebook
