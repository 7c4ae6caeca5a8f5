import Gamebook.Proofs.Pieces
import Gamebook.Proofs.Screen.Menus
import Gamebook.Proofs.Screen.Painting

/-!
# What a terminal shows of a frame

The rows of a frame are cut so that none is longer than the terminal is wide, and as many rows of
text are taken as the terminal has lines left. So every row would stand on one line. But rows of
blanks alone take two lines each, and there are such rows where the menu has fewer options than its
window has rows: with enough text, the key hints stand below the last line of the terminal.

* `Text.Fits`, `Frame.fits_of_mem_rows` : the rows of a frame fit into the width of the terminal.
* `Frame.rows_eq`, `Frame.reservedRows_eq` : the parts of a frame, and the rows reserved for them.
* `Frame.blankRows`, `Frame.countP_above` : the rows of blanks alone above the key hints.
* `Frame.Shows`, `Frame.frame_shown` : what is to be seen of a frame.
* `Frame.hints_missing` : a screen whose key hints are not to be seen.
-/

namespace Gamebook

namespace Text

/-! ## Plain texts -/

/-- A printable ASCII character. -/
def isPrintable (c : Char) : Bool := 0x20 ≤ c.toNat && c.toNat < 0x7f

theorem isPrintable_iff {c : Char} : isPrintable c = true ↔ 0x20 ≤ c.toNat ∧ c.toNat < 0x7f := by
  rw [isPrintable, Bool.and_eq_true, decide_eq_true_eq, decide_eq_true_eq]

theorem isPlain_of_printable {c : Char} (h : isPrintable c = true) : IsPlain c := by
  obtain ⟨low, high⟩ := isPrintable_iff.mp h
  exact ⟨columns_of_ascii low high, by rintro rfl; exact absurd low (by decide)⟩

theorem plain_of_printable {text : String} (h : text.toList.all isPrintable = true) : Plain text :=
  fun c hc => isPlain_of_printable (List.all_eq_true.mp h c hc)

theorem isPlain_ellipsis : IsPlain '…' := by decide +kernel

theorem isPlain_dash : IsPlain '─' := by decide +kernel

theorem isPlain_of_isDigit {c : Char} (h : c.isDigit = true) : IsPlain c := by
  simp only [Char.isDigit, Bool.and_eq_true, decide_eq_true_eq, UInt32.le_iff_toNat_le] at h
  obtain ⟨hlow, hhigh⟩ : 48 ≤ c.toNat ∧ c.toNat ≤ 57 := h
  exact isPlain_of_printable (isPrintable_iff.mpr ⟨by omega, by omega⟩)

theorem plain_append {a b : String} : Plain (a ++ b) ↔ Plain a ∧ Plain b := by
  simp only [Plain, String.toList_append, List.forall_mem_append]

theorem plain_toString (n : Nat) : Plain (toString n) := by
  intro c hc
  rw [Nat.toString_eq_repr, Nat.repr_eq_ofList_toDigits, String.toList_ofList] at hc
  exact isPlain_of_isDigit (Nat.isDigit_of_mem_toDigits (by decide) (by decide) hc)

/-- The text is plain, and takes no more than a number of cells. -/
def Fits (width : Nat) (text : String) : Prop := Plain text ∧ text.length ≤ width

theorem Fits.mono {width more : Nat} {text : String} (h : Fits width text) (hmore : width ≤ more) :
    Fits more text :=
  ⟨h.1, Nat.le_trans h.2 hmore⟩

theorem toList_pushn (c : Char) (n : Nat) : ("".pushn c n).toList = List.replicate n c := by
  induction n with
  | zero => rfl
  | succ n ih =>
    rw [List.replicate_succ', ← ih]
    exact String.toList_push _

end Text

namespace Frame

open Text (Plain)

variable {width height : Nat} {stateFile text row : String} {screen : Screen}

/-! ## Rows are cut -/

theorem length_cut (width : Nat) (text : String) : (cut width text).length ≤ width := by
  rw [cut]
  split
  · assumption
  · split
    · exact Nat.zero_le _
    · rw [String.length_append, String.length_ofList, List.length_take]
      change _ + 1 ≤ width
      omega

/-- Rows that are cut off end in an ellipsis. -/
theorem cut_cases (width : Nat) (text : String) :
    cut width text = text ∨ width = 0 ∧ cut width text = "" ∨
      cut width text = String.ofList (text.toList.take (width - 1)) ++ "…" := by
  rw [cut]
  split
  · exact .inl rfl
  · split
    · next hzero => exact .inr (.inl ⟨hzero, rfl⟩)
    · exact .inr (.inr rfl)

theorem mem_cut {c : Char} (h : c ∈ (cut width text).toList) : c ∈ text.toList ∨ c = '…' := by
  obtain hcut | ⟨-, hcut⟩ | hcut := cut_cases width text <;> rw [hcut] at h
  · exact .inl h
  · cases h
  · rw [String.toList_append, String.toList_ofList, List.mem_append] at h
    exact h.imp List.mem_of_mem_take List.mem_singleton.mp

theorem getLast?_cut (hwidth : 0 < width) (text : String) :
    (cut width text).toList.getLast? = text.toList.getLast? ∨
      (cut width text).toList.getLast? = some '…' := by
  obtain hcut | ⟨hzero, -⟩ | hcut := cut_cases width text
  · exact .inl (by rw [hcut])
  · omega
  · refine .inr ?_
    rw [hcut, String.toList_append]
    exact List.getLast?_concat

theorem plain_cut (h : Plain text) (width : Nat) : Plain (cut width text) := fun c hc => by
  obtain hc | rfl := mem_cut hc
  · exact h c hc
  · exact Text.isPlain_ellipsis

theorem fits_cut (h : Plain text) (width : Nat) : Text.Fits width (cut width text) :=
  ⟨plain_cut h width, length_cut width text⟩

/-- A row that is cut off is not one of blanks alone. -/
theorem isBlankRow_cut (h : Plain text) (hwidth : 0 < width) {c : Char} (hc : c ∈ text.toList)
    (hsolid : isBlankChar c = false) : Paint.isBlankRow (cut width text) = false := by
  obtain hcut | ⟨hzero, -⟩ | hcut := cut_cases width text
  · rw [hcut]
    exact Paint.isBlankRow_of_mem h hc hsolid
  · omega
  · have hmem : '…' ∈ (cut width text).toList := by
      rw [hcut, String.toList_append]
      exact List.mem_append_right _ List.mem_cons_self
    exact Paint.isBlankRow_of_mem (plain_cut h width) hmem (by decide)

theorem unbroken_plain (h : Plain text) : unbroken text = text := by
  have hbreak : '\n' ∉ text.toList := fun hmem => (h '\n' hmem).2 rfl
  rw [unbroken, Text.lines_of_notMem hbreak]
  split
  · next hempty => rw [hempty]; rfl
  · simp [String.join_cons]

/-! ## Text is wrapped -/

theorem of_mem_chunks {cs piece : List Char} (hwidth : 0 < width) (h : piece ∈ chunks width cs) :
    piece.length ≤ width ∧ ∀ c ∈ piece, c ∈ cs := by
  fun_induction chunks width cs with
  | case1 cs hshort =>
    obtain rfl := List.mem_singleton.mp h
    exact ⟨hshort.resolve_left (Nat.ne_of_gt hwidth), fun c hc => hc⟩
  | case2 cs hlong ih =>
    obtain rfl | h := List.mem_cons.mp h
    · exact ⟨List.length_take_le _ _, fun c hc => List.mem_of_mem_take hc⟩
    · obtain ⟨hlength, hmem⟩ := ih h
      exact ⟨hlength, fun c hc => List.mem_of_mem_drop (hmem c hc)⟩

theorem fits_of_mem_wrap {line : String} (hline : Plain line) (hwidth : 0 < width)
    (h : row ∈ wrap width line) : Text.Fits width row := by
  obtain ⟨piece, hpiece, rfl⟩ := List.mem_map.mp h
  obtain ⟨hlength, hmem⟩ := of_mem_chunks hwidth hpiece
  refine ⟨fun c hc => hline c (hmem c ?_), ?_⟩
  · rwa [String.toList_ofList] at hc
  · rwa [String.length_ofList]

end Frame

/-! ## Plain screens -/

/-- What the screen shows consists of characters that take one cell each, and no line breaks. -/
structure Screen.Plain (screen : Screen) : Prop where
  storyTitle : Text.Plain screen.storyTitle
  sectionTitle : Text.Plain screen.sectionTitle
  status : Text.Plain screen.status
  lines : ∀ line ∈ screen.pane.visible, Text.Plain line
  offers : ∀ offer ∈ screen.menu.offers, Text.Plain offer.text

namespace Frame

open Text (Plain)

variable {width height : Nat} {stateFile text row : String} {screen : Screen}

/-- The rows above the text. -/
def titles (width : Nat) (stateFile : String) (screen : Screen) : List String :=
  [cut (contentWidth width) (screen.storyTitle ++ " | " ++ screen.sectionTitle),
    cut (contentWidth width) ("state: " ++ stateFile),
    cut (contentWidth width) ("status: " ++ screen.status)]

/-- The row below the text. -/
def divider (width : Nat) : String := "".pushn '─' (contentWidth width)

/-- The rows between the text and the key hints. -/
def controls (width : Nat) (screen : Screen) : List String :=
  [divider width]
    ++ (if menuShown screen then [cut (contentWidth width) "options (up/down + enter):"] else [])
    ++ menuRows width screen
    ++ [windowRow width screen]
    ++ (if screen.ended then ["[end] r restarts, l loads a save"] else [])

/-- The key hints. -/
def hints (width : Nat) : String :=
  cut (contentWidth width)
    ("keys: up/down move | enter choose/skip text | s save | l load | r restart | "
      ++ "h help | q quit")

/-- The rows below the key hints. -/
def help (width : Nat) (screen : Screen) : List String :=
  if screen.helpShown then
    [cut (contentWidth width)
      ("saves keep the section, story and section variables, visit counts and used "
        ++ "options.")]
  else []

/-- The rows above the key hints. -/
def above (width height : Nat) (stateFile : String) (screen : Screen) : List String :=
  titles width stateFile screen ++ textRows width height screen ++ controls width screen

theorem contentWidth_pos (width : Nat) : 0 < contentWidth width := by
  rw [contentWidth]
  omega

/-! ## The rows of a frame -/

theorem fits_of_mem_textRows (hplain : screen.Plain) (h : row ∈ textRows width height screen) :
    Text.Fits (contentWidth width) row := by
  obtain ⟨line, hline, hrow⟩ := List.mem_flatMap.mp (List.mem_of_mem_drop h)
  exact fits_of_mem_wrap (hplain.lines line hline) (contentWidth_pos width) hrow

theorem rows_eq (hplain : screen.Plain) : rows width height stateFile screen =
    above width height stateFile screen ++ hints width :: help width screen := by
  have htitle : Plain (cut (contentWidth width)
      (screen.storyTitle ++ " | " ++ screen.sectionTitle)) :=
    plain_cut (Text.plain_append.mpr ⟨Text.plain_append.mpr
      ⟨hplain.storyTitle, Text.plain_of_printable (by decide)⟩, hplain.sectionTitle⟩) _
  have htext : (textRows width height screen).map unbroken = textRows width height screen := by
    rw [List.map_congr_left fun row hrow => unbroken_plain (fits_of_mem_textRows hplain hrow).1]
    exact List.map_id _
  unfold rows
  dsimp only
  rw [unbroken_plain htitle, htext]
  simp only [above, titles, divider, controls, hints, help, menuRows, List.append_assoc,
    List.singleton_append]

/-- The rows that are not text are those that are reserved. -/
theorem reservedRows_eq (width : Nat) (screen : Screen) : reservedRows screen =
    3 + (controls width screen).length + 1 + (help width screen).length := by
  have hwindow : Menu.windowRows = 5 := rfl
  simp only [reservedRows, controls, help, menuRows, List.length_append, List.length_map,
    List.length_range, List.length_singleton, hwindow]
  split <;> split <;> split <;> simp

theorem fits_of_mem_titles (hplain : screen.Plain) (hfile : Plain stateFile)
    (h : row ∈ titles width stateFile screen) : Text.Fits (contentWidth width) row := by
  simp only [titles, List.mem_cons, List.not_mem_nil, or_false] at h
  obtain rfl | rfl | rfl := h
  · exact fits_cut (Text.plain_append.mpr ⟨Text.plain_append.mpr
      ⟨hplain.storyTitle, Text.plain_of_printable (by decide)⟩, hplain.sectionTitle⟩) _
  · exact fits_cut (Text.plain_append.mpr ⟨Text.plain_of_printable (by decide), hfile⟩) _
  · exact fits_cut (Text.plain_append.mpr ⟨Text.plain_of_printable (by decide), hplain.status⟩) _

/-- An option of the menu is shown in a row of its window. -/
def IsShown (screen : Screen) (row : Nat) : Prop :=
  menuShown screen = true ∧ screen.menu.scroll + row < screen.menu.offers.length

instance (screen : Screen) (row : Nat) : Decidable (IsShown screen row) :=
  inferInstanceAs (Decidable (_ ∧ _))

theorem menuRow_of_not_isShown {index : Nat} (h : ¬ IsShown screen index) :
    menuRow width screen index = "   " := by
  rw [menuRow]
  split
  · next offer hoffer =>
    obtain ⟨hindex, -⟩ := List.getElem?_eq_some_iff.mp hoffer
    exact if_neg fun hshown => h ⟨hshown, hindex⟩
  · rfl

/-- The rows of options have room for numbers of four digits. -/
theorem fits_menuRow (hplain : screen.Plain) (hcount : screen.menu.offers.length < 10000)
    (hwidth : 32 ≤ width) (index : Nat) : Text.Fits width (menuRow width screen index) := by
  by_cases h : IsShown screen index
  · obtain ⟨hshown, hindex⟩ := h
    have hnumber : (toString (screen.menu.scroll + index + 1)).length ≤ 4 := by
      rw [Nat.toString_eq_repr, Nat.length_repr_le_iff (by decide)]
      exact Nat.lt_of_le_of_lt hindex hcount
    have htext := fits_cut (hplain.offers _ (List.getElem_mem hindex))
      (max (contentWidth width - 6) 8)
    have hmark : Text.Fits 2
        (if screen.menu.scroll + index = screen.menu.selected then "> " else "  ") := by
      split <;> exact ⟨Text.plain_of_printable (by decide), by decide⟩
    rw [menuRow_some hshown (List.getElem?_eq_getElem hindex)]
    refine ⟨?_, ?_⟩
    · simp only [Text.plain_append]
      exact ⟨⟨⟨hmark.1, Text.plain_toString _⟩, Text.plain_of_printable (by decide)⟩, htext.1⟩
    · have hdot : ". ".length = 2 := by decide
      have hroom : max (contentWidth width - 6) 8 + 8 ≤ width := by
        rw [contentWidth]
        omega
      have hmark' := hmark.2
      have htext' := htext.2
      simp only [String.length_append]
      omega
  · rw [menuRow_of_not_isShown h]
    exact ⟨Text.plain_of_printable (by decide), Nat.le_trans (by decide) hwidth⟩

theorem mem_divider {c : Char} (h : c ∈ (divider width).toList) : c = '─' := by
  rw [divider, Text.toList_pushn] at h
  exact List.eq_of_mem_replicate h

theorem fits_divider (width : Nat) : Text.Fits (contentWidth width) (divider width) := by
  refine ⟨fun c hc => ?_, ?_⟩
  · rw [mem_divider hc]
    exact Text.isPlain_dash
  · rw [divider, String.length_pushn]
    exact Nat.le_of_eq (Nat.zero_add _)

theorem fits_windowRow (width : Nat) (screen : Screen) :
    Text.Fits (contentWidth width) (windowRow width screen) := by
  rw [windowRow]
  split
  · refine fits_cut ?_ _
    simp only [Text.plain_append, Text.plain_toString, and_true]
    refine ⟨⟨?_, ?_⟩, ?_⟩ <;> exact Text.plain_of_printable (by decide)
  · exact ⟨Text.plain_of_printable (by decide), contentWidth_pos width⟩

theorem fits_of_mem_controls (hplain : screen.Plain) (hcount : screen.menu.offers.length < 10000)
    (hwidth : 32 ≤ width) (h : row ∈ controls width screen) : Text.Fits width row := by
  have hcontent : contentWidth width ≤ width := by
    rw [contentWidth]
    omega
  simp only [controls, List.mem_append, List.mem_singleton] at h
  obtain (((rfl | hheader) | hmenu) | rfl) | hended := h
  · exact (fits_divider width).mono hcontent
  · split at hheader
    · rw [List.mem_singleton.mp hheader]
      exact (fits_cut (Text.plain_of_printable (by decide)) _).mono hcontent
    · cases hheader
  · obtain ⟨index, -, rfl⟩ := List.mem_map.mp hmenu
    exact fits_menuRow hplain hcount hwidth index
  · exact (fits_windowRow width screen).mono hcontent
  · split at hended
    · rw [List.mem_singleton.mp hended]
      exact ⟨Text.plain_of_printable (by decide), hwidth⟩
    · cases hended

/-- The rows of a frame fit into the width of a terminal. -/
theorem fits_of_mem_rows (hplain : screen.Plain) (hfile : Plain stateFile)
    (hcount : screen.menu.offers.length < 10000) (hwidth : 32 ≤ width)
    (h : row ∈ rows width height stateFile screen) : Text.Fits width row := by
  have hcontent : contentWidth width ≤ width := by
    rw [contentWidth]
    omega
  rw [rows_eq hplain, above, List.mem_append, List.mem_append, List.mem_append, List.mem_cons] at h
  obtain ((htitle | htext) | hcontrol) | rfl | hhelp := h
  · exact (fits_of_mem_titles hplain hfile htitle).mono hcontent
  · exact (fits_of_mem_textRows hplain htext).mono hcontent
  · exact fits_of_mem_controls hplain hcount hwidth hcontrol
  · exact (fits_cut (Text.plain_of_printable (by decide)) _).mono hcontent
  · rw [help] at hhelp
    split at hhelp
    · rw [List.mem_singleton.mp hhelp]
      exact (fits_cut (Text.plain_of_printable (by decide)) _).mono hcontent
    · cases hhelp

/-- No row of a frame is broken. -/
theorem wrap_of_mem_rows (hplain : screen.Plain) (hfile : Plain stateFile)
    (hcount : screen.menu.offers.length < 10000) (hwidth : 32 ≤ width) :
    ∀ row ∈ rows width height stateFile screen, Paint.wrap width row = Paint.linesOf row := by
  intro row hrow
  obtain ⟨hplain, hlength⟩ := fits_of_mem_rows hplain hfile hcount hwidth hrow
  exact Paint.wrap_plain hplain hlength

/-! ## Rows of blanks alone -/

/-- The rows of the menu's window that show no option. -/
def freeRows (screen : Screen) : Nat :=
  (List.range Menu.windowRows).countP fun row => decide (¬ IsShown screen row)

/-- A row tells which options the window shows. -/
def isWindowShown (screen : Screen) : Bool :=
  menuShown screen && decide (Menu.windowRows < screen.menu.offers.length)

/-- The rows of blanks alone above the key hints: such rows of the text, rows of the menu's window
that show no option, and the row below the window if it tells nothing. -/
def blankRows (width height : Nat) (screen : Screen) : Nat :=
  (textRows width height screen).countP Paint.isBlankRow + freeRows screen
    + (if isWindowShown screen then 0 else 1)

theorem isBlankRow_menuRow (hplain : screen.Plain) (hcount : screen.menu.offers.length < 10000)
    (hwidth : 32 ≤ width) (index : Nat) :
    Paint.isBlankRow (menuRow width screen index) = decide (¬ IsShown screen index) := by
  by_cases h : IsShown screen index
  · have hdot : '.' ∈ (menuRow width screen index).toList := by
      rw [menuRow_some h.1 (List.getElem?_eq_getElem h.2)]
      simp only [String.toList_append, List.mem_append]
      exact .inl (.inr List.mem_cons_self)
    rw [Paint.isBlankRow_of_mem (fits_menuRow hplain hcount hwidth index).1 hdot (by decide)]
    simpa using h
  · rw [menuRow_of_not_isShown h]
    simpa [h] using (by decide : Paint.isBlankRow "   " = true)

theorem isBlankRow_divider (width : Nat) : Paint.isBlankRow (divider width) = false := by
  refine Paint.isBlankRow_of_mem (c := '─') (fits_divider width).1 ?_ (by decide)
  rw [divider, Text.toList_pushn]
  exact List.mem_replicate.mpr ⟨Nat.ne_of_gt (contentWidth_pos width), rfl⟩

theorem isBlankRow_windowRow (width : Nat) (screen : Screen) :
    Paint.isBlankRow (windowRow width screen) = !isWindowShown screen := by
  rw [windowRow, isWindowShown]
  split
  · next hshown =>
    rw [hshown]
    refine isBlankRow_cut (c := 'w') ?_ (contentWidth_pos width) ?_ (by decide)
    · simp only [Text.plain_append, Text.plain_toString, and_true]
      refine ⟨⟨?_, ?_⟩, ?_⟩ <;> exact Text.plain_of_printable (by decide)
    · simp only [String.toList_append, List.mem_append]
      exact .inl (.inl (.inl (.inl (.inl (by decide)))))
  · next hshown =>
    rw [Bool.eq_false_iff.mpr hshown]
    decide

theorem countP_titles (hplain : screen.Plain) (hfile : Plain stateFile) :
    (titles width stateFile screen).countP Paint.isBlankRow = 0 := by
  rw [List.countP_eq_zero]
  intro row hrow
  have hpos := contentWidth_pos width
  simp only [titles, List.mem_cons, List.not_mem_nil, or_false] at hrow
  rw [Bool.not_eq_true]
  obtain rfl | rfl | rfl := hrow
  · refine isBlankRow_cut (c := '|') ?_ hpos (by simp) (by decide)
    exact Text.plain_append.mpr ⟨Text.plain_append.mpr
      ⟨hplain.storyTitle, Text.plain_of_printable (by decide)⟩, hplain.sectionTitle⟩
  · refine isBlankRow_cut (c := ':') ?_ hpos (by simp) (by decide)
    exact Text.plain_append.mpr ⟨Text.plain_of_printable (by decide), hfile⟩
  · refine isBlankRow_cut (c := ':') ?_ hpos (by simp) (by decide)
    exact Text.plain_append.mpr ⟨Text.plain_of_printable (by decide), hplain.status⟩

theorem countP_controls (hplain : screen.Plain) (hcount : screen.menu.offers.length < 10000)
    (hwidth : 32 ≤ width) : (controls width screen).countP Paint.isBlankRow =
      freeRows screen + if isWindowShown screen then 0 else 1 := by
  have hpos := contentWidth_pos width
  have hheader : Paint.isBlankRow (cut (contentWidth width) "options (up/down + enter):") = false :=
    isBlankRow_cut (c := ':') (Text.plain_of_printable (by decide)) hpos (by decide) (by decide)
  have hended : Paint.isBlankRow "[end] r restarts, l loads a save" = false :=
    Paint.isBlankRow_of_mem (c := 'e') (Text.plain_of_printable (by decide)) (by decide) (by decide)
  have hmenu : (menuRows width screen).countP Paint.isBlankRow = freeRows screen := by
    rw [menuRows, List.countP_map, freeRows]
    exact congrArg (List.countP · _) (funext (isBlankRow_menuRow hplain hcount hwidth))
  have hheaders : List.countP Paint.isBlankRow (if menuShown screen then
      [cut (contentWidth width) "options (up/down + enter):"] else []) = 0 := by
    split
    · rw [List.countP_singleton, hheader, if_neg Bool.false_ne_true]
    · rfl
  have hends : List.countP Paint.isBlankRow (if screen.ended then
      ["[end] r restarts, l loads a save"] else []) = 0 := by
    split
    · rw [List.countP_singleton, hended, if_neg Bool.false_ne_true]
    · rfl
  rw [controls]
  simp only [List.countP_append, List.countP_singleton, isBlankRow_divider, isBlankRow_windowRow,
    hmenu, hheaders, hends]
  cases isWindowShown screen <;> simp

theorem countP_above (hplain : screen.Plain) (hfile : Plain stateFile)
    (hcount : screen.menu.offers.length < 10000) (hwidth : 32 ≤ width) (height : Nat) :
    (above width height stateFile screen).countP Paint.isBlankRow =
      blankRows width height screen := by
  rw [above, List.countP_append, List.countP_append, countP_titles hplain hfile,
    countP_controls hplain hcount hwidth, blankRows, Nat.zero_add, Nat.add_assoc]

/-! ## The key hints -/

theorem standsAlone_hints {c : Char} (hc : c ∈ (hints width).toList) : Text.StandsAlone c := by
  have hprintable : ("keys: up/down move | enter choose/skip text | s save | l load | "
      ++ "r restart | h help | q quit").toList.all Text.isPrintable = true := by decide
  obtain hc | rfl := mem_cut hc
  · obtain ⟨low, high⟩ := Text.isPrintable_iff.mp (List.all_eq_true.mp hprintable c hc)
    exact Text.standsAlone_of_ascii low high
  · decide +kernel

theorem fits_hints (width : Nat) : Text.Fits (contentWidth width) (hints width) :=
  fits_cut (Text.plain_of_printable (by decide)) _

theorem isBlankRow_hints (width : Nat) : Paint.isBlankRow (hints width) = false :=
  isBlankRow_cut (c := ':') (Text.plain_of_printable (by decide)) (contentWidth_pos width)
    (by decide) (by decide)

/-- The key hints read as they are written. -/
theorem lineText_hints (hwidth : 32 ≤ width) :
    Paint.lineText width (Paint.Glyph.ofText (hints width)) = hints width := by
  have hcontent : contentWidth width ≤ width := by
    rw [contentWidth]
    omega
  obtain ⟨hplain, hlength⟩ := (fits_hints width).mono hcontent
  rw [Paint.lineText_standsAlone hplain (fun c => standsAlone_hints) hlength]
  obtain hlast | hlast := getLast?_cut (contentWidth_pos width) _
  · exact Text.trimEnd_of_getLast? (c := 't') (hlast.trans (by decide)) (by decide)
  · exact Text.trimEnd_of_getLast? hlast (by decide)

/-! ## The terminal -/

/-- What a terminal shows of a frame. -/
structure Shows (width height : Nat) (stateFile : String) (screen : Screen) : Prop where
  narrow : ∀ row ∈ rows width height stateFile screen, row.length ≤ width
  short : (rows width height stateFile screen).length ≤ height
  /-- The text that is shown is the end of the wrapped text, as much of it as there is room for. -/
  text : textRows width height screen <:+ screen.pane.visible.flatMap (wrap (contentWidth width)) ∧
    (textRows width height screen).length =
      min (screen.pane.visible.flatMap (wrap (contentWidth width))).length
        (height - reservedRows screen)
  /-- It stands between the titles and what is above the key hints. -/
  parts : rows width height stateFile screen =
    titles width stateFile screen ++ textRows width height screen ++ controls width screen
      ++ hints width :: help width screen
  /-- No row is broken, but an empty line comes before a row of blanks alone. -/
  lines : ∀ row ∈ rows width height stateFile screen, Paint.wrap width row = Paint.linesOf row
  /-- A row stands below the lines of the rows before it, if the terminal is high enough. -/
  row_at {before behind : List String} {row : String}
    (h : rows width height stateFile screen = before ++ row :: behind)
    (hheight : before.length + (before ++ [row]).countP Paint.isBlankRow < height) :
    (Paint.onTerminal width height (rows width height stateFile screen))[
      before.length + (before ++ [row]).countP Paint.isBlankRow]? =
        some (Paint.lineText width (Paint.Glyph.ofText row))
  /-- The key hints are to be seen if there is a line for each row before them, and another one for
  each row of blanks alone. -/
  hints_at (h : (above width height stateFile screen).length + blankRows width height screen <
      height) : (Paint.onTerminal width height (rows width height stateFile screen))[
        (above width height stateFile screen).length + blankRows width height screen]? =
          some (hints width)
  /-- Otherwise nothing but the rows before them is to be seen. -/
  hints_below
    (h : height ≤ (above width height stateFile screen).length + blankRows width height screen) :
    Paint.onTerminal width height (rows width height stateFile screen) =
      (((above width height stateFile screen).flatMap Paint.linesOf).take height).map
        (Paint.lineText width)

/-- The text that is shown. -/
theorem textRows_suffix (width : Nat) (hheight : reservedRows screen < height) :
    textRows width height screen <:+ screen.pane.visible.flatMap (wrap (contentWidth width)) ∧
      (textRows width height screen).length =
        min (screen.pane.visible.flatMap (wrap (contentWidth width))).length
          (height - reservedRows screen) := by
  rw [textRows, lastOf]
  refine ⟨List.drop_suffix _ _, ?_⟩
  rw [List.length_drop]
  omega

/-- A terminal that is wide enough and higher than the rows that are reserved shows a frame as its
rows say; but rows of blanks alone take two lines, so the key hints may come to stand below the last
line. -/
theorem frame_shown (hplain : screen.Plain) (hfile : Plain stateFile)
    (hcount : screen.menu.offers.length < 10000) (hwidth : 32 ≤ width)
    (hheight : reservedRows screen < height) : Shows width height stateFile screen := by
  have hpos : 0 < width := by omega
  have hwrap : ∀ row ∈ rows width height stateFile screen,
      Paint.wrap width row = Paint.linesOf row := wrap_of_mem_rows hplain hfile hcount hwidth
  constructor
  case narrow => exact fun row hrow => (fits_of_mem_rows hplain hfile hcount hwidth hrow).2
  case short =>
    have hreserved := reservedRows_eq width screen
    have htitles : (titles width stateFile screen).length = 3 := rfl
    have htext := (textRows_suffix width hheight).2
    rw [rows_eq hplain, above]
    simp only [List.length_append, List.length_cons, htitles]
    omega
  case text => exact textRows_suffix width hheight
  case parts => exact rows_eq hplain
  case lines => exact hwrap
  case row_at => exact Paint.getElem?_onTerminal hpos hwrap
  case hints_at =>
    intro hheight
    have hblank : (above width height stateFile screen ++ [hints width]).countP Paint.isBlankRow =
        blankRows width height screen := by
      rw [List.countP_append, countP_above hplain hfile hcount hwidth, List.countP_singleton,
        isBlankRow_hints, if_neg Bool.false_ne_true, Nat.add_zero]
    rw [← hblank] at hheight ⊢
    rw [Paint.getElem?_onTerminal hpos hwrap (rows_eq hplain) hheight, lineText_hints hwidth]
  case hints_below =>
    rw [← countP_above hplain hfile hcount hwidth height]
    exact Paint.onTerminal_full hpos hwrap (rows_eq hplain)

/-! ## A crowded terminal -/

/-- A screen with thirteen lines of text, all of which have appeared, and two options. -/
def crowded : Screen where
  storyTitle := "Tale"
  sectionTitle := "hall"
  pane := { shown := ["== hall ==", "One", "Two", "Three", "Four", "Five", "Six", "Seven", "Eight",
    "Nine", "Ten", "Eleven", "Twelve"] }
  menu := .ofOffers [⟨"left", "Left"⟩, ⟨"right", "Right"⟩]
  status := "ready"

theorem plain_crowded : crowded.Plain := by
  have hlines : crowded.pane.visible.all (·.toList.all Text.isPrintable) = true := by decide
  have hoffers : crowded.menu.offers.all (·.text.toList.all Text.isPrintable) = true := by decide
  refine ⟨Text.plain_of_printable (by decide), Text.plain_of_printable (by decide),
    Text.plain_of_printable (by decide), fun line hline => ?_, fun offer hoffer => ?_⟩
  · exact Text.plain_of_printable (List.all_eq_true.mp hlines line hline)
  · exact Text.plain_of_printable (List.all_eq_true.mp hoffers offer hoffer)

theorem wrap_of_length_le {line : String} (h : line.length ≤ width) : wrap width line = [line] := by
  rw [wrap, chunks, dif_pos (.inr h), List.map_singleton, String.ofList_toList]

/-- The lines of the text are short enough to stand on a row each. -/
theorem textRows_crowded (height : Nat) : textRows 80 height crowded =
    lastOf (max (height - reservedRows crowded) 1) crowded.pane.visible := by
  have hshort : ∀ line ∈ crowded.pane.visible, line.length ≤ contentWidth 80 := by decide +kernel
  rw [textRows, List.flatMap_def,
    List.map_congr_left fun line hline => wrap_of_length_le (hshort line hline),
    ← List.flatMap_def, List.flatMap_singleton']

theorem lineText_divider_ne_hints {line : List Paint.Glyph}
    (hline : line ∈ Paint.linesOf (divider 80)) : Paint.lineText 80 line ≠ hints 80 := by
  obtain ⟨hplain, hlength⟩ := fits_divider 80
  rw [Paint.linesOf, isBlankRow_divider, if_neg Bool.false_ne_true, List.nil_append,
    List.mem_singleton] at hline
  rw [hline, Paint.lineText_standsAlone hplain
    (fun c hc => by rw [mem_divider hc]; decide +kernel) (Nat.le_trans hlength (by decide))]
  intro heq
  have hkey : 'k' ∈ (Text.trimEnd (divider 80)).toList := by
    rw [heq]
    decide +kernel
  exact absurd (mem_divider (Text.mem_of_mem_trimEnd hkey)) (by decide)

/-- In a terminal that has a line for each of its rows, the screen is shown without the key hints:
four of the rows before them are blank, and each of these takes two lines. -/
theorem hints_missing :
    crowded.Plain ∧ Plain "save.json" ∧ crowded.menu.offers.length < 10000 ∧
      reservedRows crowded < 24 ∧ (rows 80 24 "save.json" crowded).length = 24 ∧
      (∃ row ∈ rows 80 24 "save.json" crowded, (Paint.wrap 80 row).length = 2) ∧
      hints 80 ∈ rows 80 24 "save.json" crowded ∧
      hints 80 ∉ Paint.onTerminal 80 24 (rows 80 24 "save.json" crowded) := by
  have hfile : Plain "save.json" := Text.plain_of_printable (by decide)
  have hcount : crowded.menu.offers.length < 10000 := by decide
  have hrows : rows 80 24 "save.json" crowded =
      above 80 24 "save.json" crowded ++ hints 80 :: help 80 crowded := rows_eq plain_crowded
  have hcontrols : controls 80 crowded = divider 80 :: (controls 80 crowded).tail := rfl
  refine ⟨plain_crowded, hfile, hcount, by decide, ?_, ⟨" ", ?_, by decide⟩, ?_, ?_⟩
  · rw [hrows, above, textRows_crowded]
    decide +kernel
  · have hblank : " " ∈ (controls 80 crowded).tail := by decide
    rw [hrows, above, hcontrols]
    exact List.mem_append_left _ (List.mem_append_right _ (List.mem_cons_of_mem _ hblank))
  · rw [hrows]
    exact List.mem_append_right _ List.mem_cons_self
  · have hfull : 24 ≤ (above 80 24 "save.json" crowded).length +
        (above 80 24 "save.json" crowded).countP Paint.isBlankRow := by
      rw [countP_above plain_crowded hfile hcount (by decide), above, blankRows, textRows_crowded]
      decide +kernel
    have hothers : ∀ row ∈ titles 80 "save.json" crowded ++ textRows 80 24 crowded ++
        (controls 80 crowded).tail, ∀ line ∈ Paint.linesOf row,
          Paint.lineText 80 line ≠ hints 80 := by
      rw [textRows_crowded]
      decide +kernel
    rw [Paint.onTerminal_full (by decide) (wrap_of_mem_rows plain_crowded hfile hcount (by decide))
      hrows hfull, List.mem_map]
    rintro ⟨line, hline, hhints⟩
    obtain ⟨row, hrow, hline⟩ := List.mem_flatMap.mp (List.mem_of_mem_take hline)
    rw [above, hcontrols, List.mem_append, List.mem_cons] at hrow
    obtain hrow | rfl | hrow := hrow
    · exact hothers row (List.mem_append_left _ hrow) line hline hhints
    · exact lineText_divider_ne_hints hline hhints
    · exact hothers row (List.mem_append_right _ hrow) line hline hhints

/-- Five lines more are enough for the key hints. -/
theorem frame_shown_crowded :
    Paint.onTerminal 80 24 (rows 80 24 "save.json" crowded) =
      (((above 80 24 "save.json" crowded).flatMap Paint.linesOf).take 24).map (Paint.lineText 80) ∧
    (Paint.onTerminal 80 29 (rows 80 29 "save.json" crowded))[28]? = some (hints 80) := by
  have hfile : Plain "save.json" := Text.plain_of_printable (by decide)
  have hlow := frame_shown plain_crowded hfile (by decide) (show 32 ≤ 80 by decide)
    (show reservedRows crowded < 24 by decide)
  have hhigh := frame_shown plain_crowded hfile (by decide) (show 32 ≤ 80 by decide)
    (show reservedRows crowded < 29 by decide)
  refine ⟨hlow.hints_below ?_, ?_⟩
  · rw [above, blankRows, textRows_crowded]
    decide +kernel
  · have hlines : (above 80 29 "save.json" crowded).length + blankRows 80 29 crowded = 28 := by
      rw [above, blankRows, textRows_crowded]
      decide +kernel
    have hhints := hhigh.hints_at (hlines ▸ by decide)
    rwa [hlines] at hhints

end Frame

end Gamebook
