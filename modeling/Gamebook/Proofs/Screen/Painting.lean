import Gamebook.Screen.Paint

/-!
# Rows that fit a terminal

A row of characters that take one cell each, and no more of them than the terminal is wide, is not
broken. It stands on one line; but a row of blanks alone stands on two, for an empty line comes
first.

* `Glyph.width_ofText` : the cells of a row.
* `Paint.Unbroken`, `Paint.Unbroken.next` : what holds while the glyphs of a row are taken.
* `Paint.wrap_plain` : the lines of a row.
* `Paint.lineText_standsAlone` : a line reads as its row.
-/

namespace Gamebook

namespace Text

/-! ## Characters that take one cell -/

/-- The character takes one cell, and does not end a line. -/
def IsPlain (c : Char) : Prop := columns c = 1 ∧ c ≠ '\n'

instance (c : Char) : Decidable (IsPlain c) := inferInstanceAs (Decidable (_ ∧ _))

/-- All characters of the text take one cell, and none ends a line. -/
def Plain (text : String) : Prop := ∀ c ∈ text.toList, IsPlain c

instance (text : String) : Decidable (Plain text) :=
  inferInstanceAs (Decidable (∀ c ∈ text.toList, IsPlain c))

/-- Colours for pictures take two cells. -/
theorem columns_of_isTone {c : Char} (h : isTone c = true) : columns c = 2 := by
  have hcode : c.toNat = 0x1f3fb ∨ c.toNat = 0x1f3fc ∨ c.toNat = 0x1f3fd ∨ c.toNat = 0x1f3fe ∨
      c.toNat = 0x1f3ff := by
    simp only [isTone, isWithin, Bool.and_eq_true, decide_eq_true_eq] at h
    omega
  rw [← Char.ofNat_toNat c]
  obtain h | h | h | h | h := hcode <;> rw [h] <;> decide +kernel

theorem IsPlain.isTone {c : Char} (h : IsPlain c) : isTone c = false := by
  rw [Bool.eq_false_iff]
  intro htone
  rw [IsPlain, columns_of_isTone htone] at h
  exact absurd h.1 (by decide)

theorem restColumns_plain {cs : List Char} (h : ∀ c ∈ cs, IsPlain c) :
    restColumns cs = cs.length := by
  induction cs with
  | nil => rfl
  | cons c rest ih =>
    obtain ⟨hc, hrest⟩ := List.forall_mem_cons.mp h
    cases rest with
    | nil => rw [restColumns, hc.isTone, if_neg Bool.false_ne_true, hc.1]; rfl
    | cons d rest =>
      have hjoiner : c ≠ joiner := by
        rintro rfl
        exact absurd hc (by decide +kernel)
      rw [restColumns, if_neg hjoiner, hc.isTone, if_neg Bool.false_ne_true, hc.1, ih hrest,
        Nat.add_comm]
      rfl

/-- A cluster takes as many cells as it has characters. -/
theorem clusterColumns_plain {cluster : List Char} (h : ∀ c ∈ cluster, IsPlain c) :
    clusterColumns cluster = cluster.length := by
  cases cluster with
  | nil => rfl
  | cons first rest =>
    obtain ⟨hfirst, hrest⟩ := List.forall_mem_cons.mp h
    have hbreak : rest ≠ ['\n'] := by
      rintro rfl
      exact (hrest '\n' List.mem_cons_self).2 rfl
    have hselector : rest.contains pictureSelector = false := by
      rw [Bool.eq_false_iff, ne_eq, List.contains_iff_mem]
      exact fun hmem => absurd (hrest _ hmem) (by decide +kernel)
    rw [clusterColumns, if_neg hbreak, hselector, if_neg Bool.false_ne_true, hfirst.1,
      restColumns_plain hrest, Nat.add_comm]
    rfl

/-! ## Clusters -/

theorem ne_nil_of_mem_clustersFrom {cluster cs : List Char} (hne : cluster ≠ [])
    {found : List Char} (h : found ∈ clustersFrom cluster cs) : found ≠ [] := by
  induction cs generalizing cluster with
  | nil =>
    obtain rfl := List.mem_singleton.mp h
    simpa using hne
  | cons c rest ih =>
    rw [clustersFrom] at h
    split at h
    · exact ih (List.cons_ne_nil _ _) h
    · obtain rfl | h := List.mem_cons.mp h
      · simpa using hne
      · exact ih (List.cons_ne_nil _ _) h

theorem ne_nil_of_mem_clusters {cs cluster : List Char} (h : cluster ∈ clusters cs) :
    cluster ≠ [] := by
  cases cs with
  | nil => cases h
  | cons c rest => exact ne_nil_of_mem_clustersFrom (List.cons_ne_nil _ _) h

theorem mem_of_mem_clusters {cs cluster : List Char} (h : cluster ∈ clusters cs) {c : Char}
    (hc : c ∈ cluster) : c ∈ cs := by
  rw [← flatten_clusters cs]
  exact List.mem_flatten.mpr ⟨cluster, h, hc⟩

end Text

namespace Paint

variable {row : String} {width : Nat} {glyph : Glyph} {glyphs taken : List Glyph} {w : Wrapping}

/-! ## The glyphs of a row -/

namespace Glyph

@[simp] theorem width_nil : Glyph.width [] = 0 := rfl

theorem width_append (glyphs more : List Glyph) :
    Glyph.width (glyphs ++ more) = Glyph.width glyphs + Glyph.width more := by
  simp only [Glyph.width, ← List.sum_eq_foldl, List.map_append, List.sum_append]

theorem ofText_plain (h : Text.Plain row) : ofText row =
    (Text.clusters row.toList).map fun cluster => ⟨cluster, cluster.length⟩ := by
  have hplain {cluster : List Char} (hcluster : cluster ∈ Text.clusters row.toList) :
      ∀ c ∈ cluster, Text.IsPlain c := fun c hc => h c (Text.mem_of_mem_clusters hcluster hc)
  have hkept : (Text.clusters row.toList).filter (· != ['\n']) = Text.clusters row.toList := by
    rw [List.filter_eq_self]
    intro cluster hcluster
    rw [bne_iff_ne]
    rintro rfl
    exact (hplain hcluster '\n' List.mem_cons_self).2 rfl
  rw [ofText, hkept]
  refine List.map_congr_left fun cluster hcluster => ?_
  rw [Text.clusterColumns_plain (hplain hcluster)]

/-- A row takes as many cells as it has characters. -/
theorem width_ofText (h : Text.Plain row) : Glyph.width (ofText row) = row.length := by
  have hlength := congrArg List.length (Text.flatten_clusters row.toList)
  rw [List.length_flatten] at hlength
  rw [ofText_plain h, Glyph.width, ← List.sum_eq_foldl, List.map_map, ← String.length_toList,
    ← hlength]
  rfl

theorem columns_pos (h : Text.Plain row) (hmem : glyph ∈ ofText row) : 0 < glyph.columns := by
  rw [ofText_plain h] at hmem
  obtain ⟨cluster, hcluster, rfl⟩ := List.mem_map.mp hmem
  exact List.length_pos_iff.mpr (Text.ne_nil_of_mem_clusters hcluster)

end Glyph

/-! ## A row is wrapped -/

/-- No line has been broken while glyphs were taken: all of them are still on the line begun, in its
blanks and in its word. If the line begun has glyphs, not all of them are blank. -/
structure Unbroken (w : Wrapping) (taken : List Glyph) : Prop where
  none_done : w.done = []
  all : w.line ++ w.blanks ++ w.word = taken
  solid : w.line = [] ∨ ∃ glyph ∈ w.line, glyph.isBlank = false
  blanks : ∀ glyph ∈ w.blanks, glyph.isBlank = true
  word : ∀ glyph ∈ w.word, glyph.isBlank = false
  inWord : w.inWord = true ↔ w.word ≠ []

namespace Unbroken

theorem width_eq (h : Unbroken w taken) :
    Glyph.width w.line + Glyph.width w.blanks + Glyph.width w.word = Glyph.width taken := by
  rw [← h.all, Glyph.width_append, Glyph.width_append]

/-- At the end of a word, the word goes on the line. -/
theorem settle (h : Unbroken w taken) (hword : w.inWord = true) :
    Unbroken { w.settle with inWord := false } taken where
  none_done := h.none_done
  all := by rw [← h.all]; simp [Wrapping.settle]
  solid := by
    obtain ⟨glyph, hglyph⟩ := List.exists_mem_of_ne_nil _ (h.inWord.mp hword)
    exact .inr ⟨glyph, List.mem_append_right _ hglyph, h.word glyph hglyph⟩
  blanks := fun glyph hglyph => by cases hglyph
  word := fun glyph hglyph => by cases hglyph
  inWord := by simp [Wrapping.settle]

theorem take_blank (h : Unbroken w taken) (hword : w.inWord = false)
    (hblank : glyph.isBlank = true) : Unbroken (w.take glyph) (taken ++ [glyph]) := by
  have hnone : w.word = [] := by
    rw [← Decidable.not_not (p := w.word = []), ← ne_eq, ← h.inWord, hword]
    exact Bool.false_ne_true
  rw [Wrapping.take, if_pos hblank]
  refine ⟨h.none_done, ?_, h.solid, fun other hother => ?_, h.word, by simp [hnone]⟩
  · rw [← h.all, hnone]
    simp
  · obtain hother | hother := List.mem_append.mp hother
    · exact h.blanks other hother
    · rw [List.mem_singleton.mp hother, hblank]

theorem take_solid (h : Unbroken w taken) (hsolid : glyph.isBlank = false) :
    Unbroken (w.take glyph) (taken ++ [glyph]) := by
  rw [Wrapping.take, if_neg (Bool.eq_false_iff.mp hsolid)]
  refine ⟨h.none_done, ?_, h.solid, h.blanks, fun other hother => ?_, by simp⟩
  · rw [← h.all]
    simp
  · obtain hother | hother := List.mem_append.mp hother
    · exact h.word other hother
    · rw [List.mem_singleton.mp hother, hsolid]

/-- As long as the line has room, the next glyph is taken, after a word that ends with it. -/
theorem next_eq (h : Unbroken w taken) (hpos : 0 < glyph.columns)
    (hroom : Glyph.width taken + glyph.columns ≤ width) : w.next width glyph =
      (if w.inWord && glyph.isBlank then w.settle else w).take glyph := by
  have hsum := h.width_eq
  have hfits : ¬ width < glyph.columns := by omega
  have hflows : ¬ width < Glyph.width w.word + Glyph.width w.blanks + glyph.columns := by omega
  have hsettled (settled : Wrapping) (hsame : Glyph.width settled.line +
      Glyph.width settled.blanks + Glyph.width settled.word = Glyph.width taken) :
      (decide (width ≤ Glyph.width settled.line) || (decide (0 < glyph.columns) &&
        decide (width ≤ Glyph.width settled.line + Glyph.width settled.blanks +
          Glyph.width settled.word))) = false := by
    simp only [Bool.or_eq_false_iff, Bool.and_eq_false_imp, decide_eq_false_iff_not]
    exact ⟨by omega, fun _ => by omega⟩
  rw [Wrapping.next, if_neg hfits, decide_eq_false hflows]
  simp only [Bool.and_false, Bool.or_false]
  rw [hsettled _ ?_, if_neg Bool.false_ne_true]
  split
  · simpa only [Wrapping.settle, Glyph.width_append, Glyph.width_nil, Nat.add_zero] using hsum
  · exact hsum

/-- The next glyph is taken as long as the line has room for it. -/
theorem next (h : Unbroken w taken) (hpos : 0 < glyph.columns)
    (hroom : Glyph.width taken + glyph.columns ≤ width) :
    Unbroken (w.next width glyph) (taken ++ [glyph]) := by
  rw [h.next_eq hpos hroom]
  cases hblank : glyph.isBlank with
  | false =>
    rw [Bool.and_false, if_neg Bool.false_ne_true]
    exact h.take_solid hblank
  | true =>
    rw [Bool.and_true]
    cases hword : w.inWord with
    | false => exact h.take_blank hword hblank
    | true =>
      have hsettle := (h.settle hword).take_blank rfl hblank
      rw [Wrapping.take, if_pos hblank] at hsettle
      rwa [if_pos rfl, Wrapping.take, if_pos hblank]

/-- All glyphs are taken if they fit together. -/
theorem foldl (h : Unbroken w taken) (hpos : ∀ glyph ∈ glyphs, 0 < glyph.columns)
    (hroom : Glyph.width taken + Glyph.width glyphs ≤ width) :
    Unbroken (glyphs.foldl (Wrapping.next width) w) (taken ++ glyphs) := by
  induction glyphs generalizing w taken with
  | nil => rwa [List.append_nil]
  | cons glyph rest ih =>
    obtain ⟨hglyph, hrest⟩ := List.forall_mem_cons.mp hpos
    have hsplit := Glyph.width_append [glyph] rest
    have hone : Glyph.width [glyph] = glyph.columns := Nat.zero_add _
    rw [List.singleton_append, hone] at hsplit
    rw [List.foldl_cons, List.append_cons]
    refine ih (h.next hglyph (by omega)) hrest ?_
    rw [Glyph.width_append, hone]
    omega

/-- A row with a word, or with a line begun, is not one of blanks alone. -/
theorem exists_solid (h : Unbroken w taken) (hsome : w.line ≠ [] ∨ w.word ≠ []) :
    ∃ glyph ∈ taken, glyph.isBlank = false := by
  have hmem {glyph : Glyph} (hglyph : glyph ∈ w.line ∨ glyph ∈ w.word) : glyph ∈ taken := by
    rw [← h.all, List.mem_append, List.mem_append]
    exact hglyph.imp_left .inl
  by_cases hline : w.line = []
  · obtain ⟨glyph, hglyph⟩ := List.exists_mem_of_ne_nil _ (hsome.resolve_left (· hline))
    exact ⟨glyph, hmem (.inr hglyph), h.word glyph hglyph⟩
  · obtain ⟨glyph, hglyph, hsolid⟩ := h.solid.resolve_left hline
    exact ⟨glyph, hmem (.inl hglyph), hsolid⟩

/-- The lines of an unbroken row: the row, after an empty line if it is one of blanks alone. -/
theorem lines_eq (h : Unbroken w taken) : w.lines =
    if !taken.isEmpty && taken.all Glyph.isBlank then [[], taken] else [taken] := by
  have hlast : w.settle.line = taken := h.all
  rw [Wrapping.lines, h.none_done, hlast]
  by_cases hsome : w.line ≠ [] ∨ w.word ≠ []
  · obtain ⟨glyph, hglyph, hsolid⟩ := h.exists_solid hsome
    have htaken : taken.isEmpty = false := by
      rw [Bool.eq_false_iff, ne_eq, List.isEmpty_iff]
      exact List.ne_nil_of_mem hglyph
    have hall : taken.all Glyph.isBlank = false := by
      rw [List.all_eq_false]
      exact ⟨glyph, hglyph, Bool.eq_false_iff.mp hsolid⟩
    have halone : (w.line.isEmpty && w.word.isEmpty) = false := by
      rw [Bool.eq_false_iff, ne_eq, Bool.and_eq_true, List.isEmpty_iff, List.isEmpty_iff]
      exact fun ⟨hline, hword⟩ => hsome.elim (· hline) (· hword)
    simp [htaken, hall, halone]
  · obtain ⟨hline, hword⟩ := not_or.mp hsome
    rw [ne_eq, Decidable.not_not] at hline hword
    have hblanks : w.blanks = taken := by
      rw [← h.all, hline, hword, List.nil_append, List.append_nil]
    have hall : taken.all Glyph.isBlank = true := by
      rw [List.all_eq_true, ← hblanks]
      exact h.blanks
    rw [hline, hword, hblanks, hall]
    cases taken <;> rfl

end Unbroken

/-- A row of blanks alone. -/
def isBlankRow (row : String) : Bool :=
  !(Glyph.ofText row).isEmpty && (Glyph.ofText row).all Glyph.isBlank

/-- The lines that a row takes if it is not broken. -/
def linesOf (row : String) : List (List Glyph) :=
  (if isBlankRow row then [[]] else []) ++ [Glyph.ofText row]

/-- A row that is not too long is not broken. -/
theorem wrap_plain (h : Text.Plain row) (hlength : row.length ≤ width) :
    wrap width row = linesOf row := by
  have hstart : Unbroken {} [] := ⟨rfl, rfl, .inl rfl, by simp, by simp, by simp⟩
  have hroom : Glyph.width [] + Glyph.width (Glyph.ofText row) ≤ width := by
    rwa [Glyph.width_nil, Nat.zero_add, Glyph.width_ofText h]
  have htaken := hstart.foldl (fun _ hglyph => Glyph.columns_pos h hglyph) hroom
  rw [wrap, htaken.lines_eq, linesOf, isBlankRow, List.nil_append]
  split <;> rfl

/-- Rows take a line each, and rows of blanks alone another one. -/
theorem length_flatMap_linesOf (rows : List String) :
    (rows.flatMap linesOf).length = rows.length + rows.countP isBlankRow := by
  induction rows with
  | nil => rfl
  | cons row rest ih =>
    have hrow : (linesOf row).length = 1 + if isBlankRow row then 1 else 0 := by
      rw [linesOf]
      split <;> rfl
    rw [List.flatMap_cons, List.length_append, ih, hrow, List.length_cons, List.countP_cons]
    omega

/-- A row with a character that is no blank is not one of blanks alone. -/
theorem isBlankRow_of_mem (h : Text.Plain row) {c : Char} (hc : c ∈ row.toList)
    (hsolid : isBlankChar c = false) : isBlankRow row = false := by
  obtain ⟨cluster, hcluster, hmem⟩ : ∃ cluster ∈ Text.clusters row.toList, c ∈ cluster := by
    rwa [← List.mem_flatten, Text.flatten_clusters]
  have hglyph : (⟨cluster, cluster.length⟩ : Glyph) ∈ Glyph.ofText row := by
    rw [Glyph.ofText_plain h]
    exact List.mem_map_of_mem hcluster
  have hspace : cluster ≠ [Char.ofNat 0x200b] := by
    rintro rfl
    rw [List.mem_singleton.mp hmem] at hc
    exact absurd (h _ hc) (by decide +kernel)
  have hall : cluster.all isBlankChar = false :=
    List.all_eq_false.mpr ⟨c, hmem, Bool.eq_false_iff.mp hsolid⟩
  have hnot : Glyph.isBlank ⟨cluster, cluster.length⟩ = false := by
    rw [Glyph.isBlank, hall, Bool.false_and, Bool.or_false]
    simpa using hspace
  rw [isBlankRow, List.all_eq_false.mpr ⟨_, hglyph, Bool.eq_false_iff.mp hnot⟩, Bool.and_false]

/-! ## The lines of a terminal -/

variable {rows before behind : List String} {height : Nat}

/-- A row is to be seen below the lines of the rows before it, if the terminal is high enough. -/
theorem getElem?_onTerminal (hwidth : 0 < width)
    (hwrap : ∀ row ∈ rows, wrap width row = linesOf row) (h : rows = before ++ row :: behind)
    (hheight : before.length + (before ++ [row]).countP isBlankRow < height) :
    (onTerminal width height rows)[before.length + (before ++ [row]).countP isBlankRow]? =
      some (lineText width (Glyph.ofText row)) := by
  have hlines : rows.flatMap (wrap width) =
      (before.flatMap linesOf ++ if isBlankRow row then [[]] else []) ++
        Glyph.ofText row :: behind.flatMap linesOf := by
    rw [List.flatMap_def, List.map_congr_left hwrap, ← List.flatMap_def, h, List.flatMap_append,
      List.flatMap_cons, linesOf]
    simp only [List.append_assoc, List.singleton_append]
  have hlength : (before.flatMap linesOf ++ if isBlankRow row then [[]] else []).length =
      before.length + (before ++ [row]).countP isBlankRow := by
    rw [List.length_append, length_flatMap_linesOf, List.countP_append, List.countP_singleton]
    split
    · simp only [List.length_singleton]
      omega
    · simp only [List.length_nil]
      omega
  generalize (before.flatMap linesOf ++ if isBlankRow row then [[]] else []) = upper
    at hlines hlength
  rw [← hlength] at hheight ⊢
  have hseen : (((upper ++ Glyph.ofText row :: behind.flatMap linesOf).take height).map
      (lineText width))[upper.length]? = some (lineText width (Glyph.ofText row)) := by
    rw [List.getElem?_map, List.getElem?_take_of_lt hheight,
      List.getElem?_append_right (Nat.le_refl _), Nat.sub_self]
    rfl
  rw [onTerminal, if_neg (Nat.ne_of_gt hwidth), hlines]
  have hlt := (List.getElem?_eq_some_iff.mp hseen).1
  exact (List.getElem?_append_left hlt).trans hseen

/-- Where the lines of some rows fill the terminal, the rows behind them are not to be seen. -/
theorem onTerminal_full (hwidth : 0 < width) (hwrap : ∀ row ∈ rows, wrap width row = linesOf row)
    (h : rows = before ++ behind) (hheight : height ≤ before.length + before.countP isBlankRow) :
    onTerminal width height rows =
      ((before.flatMap linesOf).take height).map (lineText width) := by
  have hlines : rows.flatMap (wrap width) = before.flatMap linesOf ++ behind.flatMap linesOf := by
    rw [List.flatMap_def, List.map_congr_left hwrap, ← List.flatMap_def, h, List.flatMap_append]
  rw [← length_flatMap_linesOf] at hheight
  have hlength : (((before.flatMap linesOf).take height).map (lineText width)).length = height := by
    rw [List.length_map, List.length_take_of_le hheight]
  rw [onTerminal, if_neg (Nat.ne_of_gt hwidth), hlines, List.take_append_of_le_length hheight]
  simp only [hlength, Nat.sub_self, List.replicate_zero, List.append_nil]

end Paint

/-! ## Characters that stand alone -/

namespace Text

/-- The character is not seen as one with another of its kind. -/
def StandsAlone (c : Char) : Prop :=
  c ≠ '\r' ∧ c ≠ joiner ∧ isExtending c = false ∧ isFlagLetter c = false ∧
    isSyllableHead c = false ∧ isSyllableTail c = false

instance (c : Char) : Decidable (StandsAlone c) := inferInstanceAs (Decidable (_ ∧ _))

theorem standsAlone_of_ascii {c : Char} (low : 0x20 ≤ c.toNat) (high : c.toNat < 0x7f) :
    StandsAlone c := by
  refine ⟨?_, ?_, ?_, ?_, ?_, ?_⟩
  · rintro rfl
    exact absurd low (by decide)
  · rintro rfl
    exact absurd high (by decide)
  · have hjoiner : joiner.toNat = 0x200d := rfl
    have hne : c ≠ joiner := by
      rintro rfl
      omega
    simp [isExtending, isMark, isSpacingMark, isTone, isWithin, hne]
    omega
  all_goals
    simp [isFlagLetter, isSyllableHead, isSyllableTail, isWithin]
    omega

theorem StandsAlone.joins {last c : Char} (hlast : StandsAlone last) (hc : StandsAlone c) :
    joins [last] c = false := by
  obtain ⟨hreturn, hjoiner, -, -, hhead, -⟩ := hlast
  obtain ⟨-, -, hextending, hflag, -, htail⟩ := hc
  simp [Text.joins, hreturn, hjoiner, hhead, hextending, hflag, htail]

theorem clusters_of_standsAlone {cs : List Char} (h : ∀ c ∈ cs, StandsAlone c) :
    clusters cs = cs.map fun c => [c] := by
  cases cs with
  | nil => rfl
  | cons first rest =>
    rw [clusters]
    induction rest generalizing first with
    | nil => rfl
    | cons c rest ih =>
      obtain ⟨hfirst, hrest⟩ := List.forall_mem_cons.mp h
      rw [clustersFrom, hfirst.joins (hrest c List.mem_cons_self), if_neg Bool.false_ne_true,
        ih c hrest]
      rfl

theorem mem_of_mem_trimEnd {text : String} {c : Char} (h : c ∈ (trimEnd text).toList) :
    c ∈ text.toList := by
  rw [trimEnd, String.toList_ofList, dropEndWhile, List.mem_reverse] at h
  exact List.mem_reverse.mp ((List.dropWhile_sublist _).subset h)

theorem trimEnd_of_getLast? {text : String} {c : Char} (h : text.toList.getLast? = some c)
    (hc : isBlankChar c = false) : trimEnd text = text := by
  obtain ⟨before, hchars⟩ := List.getLast?_eq_some_iff.mp h
  rw [trimEnd, dropEndWhile, hchars, List.reverse_concat, List.dropWhile_cons_of_neg (by simp [hc]),
    ← List.reverse_concat, List.reverse_reverse, ← hchars, String.ofList_toList]

end Text

/-- A line whose characters stand alone reads as its row, but for blanks at the end. -/
theorem Paint.lineText_standsAlone {row : String} {width : Nat} (h : Text.Plain row)
    (halone : ∀ c ∈ row.toList, Text.StandsAlone c) (hlength : row.length ≤ width) :
    lineText width (Glyph.ofText row) = Text.trimEnd row := by
  have hcells : cells (Glyph.ofText row) = row.toList.map fun c => [c] := by
    rw [Glyph.ofText_plain h, Text.clusters_of_standsAlone halone, cells, List.map_map,
      List.flatMap_map]
    exact List.map_eq_flatMap.symm
  have hwhole : (row.toList.map fun c => [c]).length ≤ width := by
    rwa [List.length_map, String.length_toList]
  rw [lineText, hcells, List.take_of_length_le hwhole, ← List.flatMap_def,
    List.flatMap_singleton', String.ofList_toList]

end Gamebook
