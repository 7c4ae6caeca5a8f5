import Gamebook.Proofs.Json.Decoding

/-!
# Reading to the end

Reading stops inside a written form only where a number is out of range or lists and objects are
nested too deeply. Where neither is the case, the form is read to its end, and decoding it succeeds.

* `Json.Readable` : the tree is nested no deeper than a limit, and its finite numbers come back.
* `Json.readWithin`, `Json.decodeWithin` : reading under any limit on the depth.
* `Json.readWithin_written`, `Json.decodeWithin_written` : what is written and readable is read.
-/

namespace Gamebook

namespace Json

/-! ## Trees that can be read -/

/-- Lists and objects are nested no deeper than this, and every finite number is read back as some
number. -/
inductive Readable : Nat → Json → Prop where
  | null (depth : Nat) : Readable depth .null
  | bool (depth : Nat) (b : Bool) : Readable depth (.bool b)
  | int (depth : Nat) (n : Int) : Readable depth (.int n)
  | number (depth : Nat) {x : Float} (h : x.isFinite = true → rereadNumber x ≠ none) :
    Readable depth (.number x)
  | text (depth : Nat) (s : String) : Readable depth (.text s)
  | array {depth : Nat} {items : List Json} (h : ∀ item ∈ items, Readable depth item) :
    Readable (depth + 1) (.array items)
  | object {depth : Nat} {members : List (String × Json)}
    (h : ∀ entry ∈ members, Readable depth entry.2) : Readable (depth + 1) (.object members)

/-! ## Each value to its end -/

variable {more : List Char}

/-- The result of reading all of a tree with this text behind it. -/
def Whole (json : Json) (more : List Char) (result : Node × Option Cursor) : Prop :=
  ∃ node mark, Shows true json node ∧ result = (node, some ⟨more, mark⟩)

/-- The result of reading all of the items to the end of their list. -/
def WholeItems (items : List Json) (more : List Char)
    (result : List Node × Option Malformation × Option Cursor) : Prop :=
  ∃ nodes mark, ShowsItems true items nodes none ∧ result = (nodes, none, some ⟨more, mark⟩)

/-- The result of reading all of the members to the end of their object. -/
def WholeMembers (members : List (String × Json)) (more : List Char)
    (result : List (String × Mark × Node) × Option Malformation × Option Cursor) : Prop :=
  ∃ nodes mark, ShowsMembers true members nodes none ∧ result = (nodes, none, some ⟨more, mark⟩)

/-- A finite float that comes back is read to the end of its text. -/
theorem whole_float {x : Float} (hx : x.isFinite = true) (hback : rereadNumber x ≠ none)
    (hm : Ended more) (fuel depth : Nat) (mark : Mark) : Whole (.number x) more
      (readValue (fuel + 1) depth ⟨(Layout.data.text x).toList ++ more, mark⟩) := by
  cases hb : Binary.ofFloat? x with
  | some b =>
    obtain ⟨c, rest, htext, hc⟩ := head_float hb
    have hread := readSigned_float hm hb mark
    rw [htext, List.cons_append] at hread ⊢
    rw [readValue_number fuel depth hc]
    obtain ⟨hnone, -⟩ | ⟨y, mark', hy, hread⟩ := hread
    · exact absurd hnone hback
    · rw [hread]
      exact ⟨_, mark', .number hx hy _, rfl⟩
  | none =>
    -- then its text is none of a number, and it does not come back
    refine absurd ?_ hback
    rcases head_notFinite hb with htext | htext | htext <;> rw [rereadNumber, htext] <;> rfl

theorem WholeItems.withItem {fuel depth : Nat} {item : Json} {items : List Json}
    {tail : List Char} {result : Node × Option Cursor} (h : Whole item (tail ++ more) result)
    (hrest : ∀ mark, WholeItems items more (readItems fuel depth false ⟨tail ++ more, mark⟩)) :
    WholeItems (item :: items) more (withItem fuel depth result) := by
  obtain ⟨node, mark, hnode, rfl⟩ := h
  obtain ⟨nodes, mark', hnodes, hread⟩ := hrest mark
  exact ⟨node :: nodes, mark', .cons hnode hnodes, by simp only [Json.withItem, hread]⟩

theorem WholeMembers.withMember {fuel depth : Nat} {key : String} {value : Json}
    {members : List (String × Json)} {tail : List Char} {result : Node × Option Cursor}
    (h : Whole value (tail ++ more) result) (mark : Mark)
    (hrest : ∀ mark, WholeMembers members more
      (readMembers fuel depth false ⟨tail ++ more, mark⟩)) :
    WholeMembers ((key, value) :: members) more (withMember fuel depth key mark result) := by
  obtain ⟨node, mark', hnode, rfl⟩ := h
  obtain ⟨nodes, mark'', hnodes, hread⟩ := hrest mark'
  exact ⟨_, mark'', .cons mark hnode hnodes, by simp only [Json.withMember, hread]⟩

/-! ## Written forms to their ends -/

/-- This fuel suffices for what is readable and no longer than half of it. -/
structure Suffices (fuel : Nat) : Prop where
  value {depth : Nat} {json : Json} {blanks text more : List Char} (hb : AllBlank blanks)
    (h : Written json text) (hr : Readable depth json) (hm : Ended more)
    (hfuel : 2 * text.length ≤ fuel) (mark : Mark) :
    Whole json more (readValue fuel depth ⟨blanks ++ (text ++ more), mark⟩)
  firstItem {depth : Nat} {item : Json} {items : List Json} {blanks head tail : List Char}
    (hb : AllBlank blanks) (h : Written item head) (hrest : WrittenItems items tail)
    (hr : ∀ other ∈ item :: items, Readable depth other) (more : List Char)
    (hfuel : 2 * (head.length + tail.length) < fuel) (mark : Mark) :
    WholeItems (item :: items) more
      (readItems fuel depth true ⟨blanks ++ (head ++ (tail ++ more)), mark⟩)
  items {depth : Nat} {items : List Json} {tail more : List Char} (h : WrittenItems items tail)
    (hr : ∀ item ∈ items, Readable depth item) (hfuel : 2 * tail.length ≤ fuel) (mark : Mark) :
    WholeItems items more (readItems fuel depth false ⟨tail ++ more, mark⟩)
  firstMember {depth : Nat} {value : Json} {members : List (String × Json)}
    {blanks gap head tail : List Char} (key : String) (hb : AllBlank blanks) (hg : AllBlank gap)
    (h : Written value head) (hrest : WrittenMembers members tail)
    (hr : ∀ entry ∈ (key, value) :: members, Readable depth entry.2) (more : List Char)
    (hfuel : 2 * (head.length + tail.length) < fuel) (mark : Mark) :
    WholeMembers ((key, value) :: members) more (readMembers fuel depth true
      ⟨blanks ++ (nameText key ++ (gap ++ (head ++ (tail ++ more)))), mark⟩)
  members {depth : Nat} {members : List (String × Json)} {tail more : List Char}
    (h : WrittenMembers members tail) (hr : ∀ entry ∈ members, Readable depth entry.2)
    (hfuel : 2 * tail.length ≤ fuel) (mark : Mark) :
    WholeMembers members more (readMembers fuel depth false ⟨tail ++ more, mark⟩)

theorem Written.length_pos {json : Json} {text : List Char} (h : Written json text) :
    0 < text.length := by
  obtain ⟨c, rest, rfl, -, -⟩ := h.head
  exact Nat.succ_pos _

theorem WrittenItems.length_pos {items : List Json} {text : List Char}
    (h : WrittenItems items text) : 0 < text.length := by
  cases h <;> simp

theorem WrittenMembers.length_pos {members : List (String × Json)} {text : List Char}
    (h : WrittenMembers members text) : 0 < text.length := by
  cases h <;> simp

theorem suffices_zero : Suffices 0 where
  value _ h _ _ hfuel _ := by have := h.length_pos; omega
  firstItem _ _ _ _ _ hfuel _ := by omega
  items h _ hfuel _ := by have := h.length_pos; omega
  firstMember _ _ _ _ _ _ _ hfuel _ := by omega
  members h _ hfuel _ := by have := h.length_pos; omega

/-- A value without blanks in front of it. -/
private theorem whole_solid {fuel : Nat} (ih : Suffices fuel) {depth : Nat} {json : Json}
    {text : List Char} (h : Written json text) (hr : Readable depth json) (hm : Ended more)
    (hfuel : 2 * text.length ≤ fuel + 1) (mark : Mark) :
    Whole json more (readValue (fuel + 1) depth ⟨text ++ more, mark⟩) := by
  cases h with
  | null => exact ⟨_, _, .null _, rfl⟩
  | yes => exact ⟨_, _, .bool true _, rfl⟩
  | no => exact ⟨_, _, .bool false _, rfl⟩
  | @int n hlow hhigh =>
    obtain ⟨c, rest, htext, hc⟩ := head_int n
    obtain ⟨mark', hread⟩ := readSigned_int hm hlow hhigh mark
    rw [htext, List.cons_append] at hread ⊢
    rw [readValue_number fuel depth hc, hread]
    exact ⟨_, mark', .int n _, rfl⟩
  | number x =>
    cases hr with
    | number _ hback =>
      unfold numberLiteral
      split
      · next hx => exact whole_float hx (hback hx) hm fuel depth mark
      · next hx => exact ⟨_, _, .notFinite (Bool.eq_false_iff.mpr hx) _, rfl⟩
  | text s =>
    obtain ⟨mark', hread⟩ := readValue_quoted s more fuel depth mark
    exact ⟨_, mark', .text s _, hread⟩
  | emptyArray =>
    cases hr with
    | @array depth _ _ =>
      obtain ⟨fuel, rfl⟩ : ∃ fuel', fuel = fuel' + 1 :=
        ⟨fuel - 1, by simp only [List.length_cons] at hfuel; omega⟩
      exact ⟨_, _, .array .nil _, rfl⟩
  | @array item items blanks head tail hb hhead htail =>
    cases hr with
    | @array depth _ hr =>
      have hshort : 2 * (head.length + tail.length) < fuel := by
        simp only [List.length_cons, List.length_append] at hfuel
        omega
      obtain ⟨nodes, mark', hnodes, hread⟩ :=
        ih.firstItem hb hhead htail hr more hshort (mark.after '[')
      rw [List.cons_append, readValue_array, List.append_assoc, List.append_assoc,
        if_neg (Nat.succ_ne_zero depth), Nat.add_sub_cancel, hread]
      exact ⟨_, mark', .array hnodes _, rfl⟩
  | emptyObject =>
    cases hr with
    | @object depth _ _ =>
      obtain ⟨fuel, rfl⟩ : ∃ fuel', fuel = fuel' + 1 :=
        ⟨fuel - 1, by simp only [List.length_cons] at hfuel; omega⟩
      exact ⟨_, _, .object .nil _, rfl⟩
  | @object key value members blanks gap head tail hb hg hhead htail =>
    cases hr with
    | @object depth _ hr =>
      have hshort : 2 * (head.length + tail.length) < fuel := by
        simp only [List.length_cons, List.length_append] at hfuel
        omega
      obtain ⟨nodes, mark', hnodes, hread⟩ :=
        ih.firstMember key hb hg hhead htail hr more hshort (mark.after '{')
      rw [List.cons_append, readValue_object]
      simp only [List.append_assoc]
      rw [if_neg (Nat.succ_ne_zero depth), Nat.add_sub_cancel, hread]
      exact ⟨_, mark', .object hnodes _, rfl⟩

theorem suffices_succ {fuel : Nat} (ih : Suffices fuel) : Suffices (fuel + 1) where
  value {depth json blanks text more} hb h hr hm hfuel mark := by
    obtain ⟨mark', hskip⟩ := readValue_blanks fuel depth hb (h.solid more) mark
    rw [hskip]
    exact whole_solid ih h hr hm hfuel mark'
  firstItem {depth item items blanks head tail} hb h hrest hr more hfuel mark := by
    have htail := hrest.length_pos
    have hr' := fun other hmem => hr other (List.mem_cons_of_mem item hmem)
    obtain ⟨c, rest, rfl, hblank, hclose⟩ := h.head
    obtain ⟨mark', hread⟩ := readItems_first fuel depth hb hblank hclose mark
    rw [List.cons_append, hread]
    refine .withItem (ih.value allBlank_nil h (hr item List.mem_cons_self) (hrest.ended more)
      (by omega) mark') fun mark => ih.items hrest hr' (by omega) mark
  items {depth items tail more} h hr hfuel mark := by
    cases h with
    | stop hb =>
      obtain ⟨mark', hread⟩ := readItems_stop fuel depth false hb mark
      rw [List.append_assoc, List.singleton_append, hread]
      exact ⟨[], mark', .nil, rfl⟩
    | @next item items blanks head tail hb hhead hrest =>
      have htail := hrest.length_pos
      have hr' := fun other hmem => hr other (List.mem_cons_of_mem item hmem)
      simp only [List.length_cons, List.length_append] at hfuel
      obtain ⟨c, rest, rfl, hblank, hclose⟩ := hhead.head
      simp only [List.cons_append, List.append_assoc]
      obtain ⟨mark', hread⟩ := readItems_next fuel depth hb hblank hclose mark
      rw [hread]
      exact .withItem (ih.value allBlank_nil hhead (hr item List.mem_cons_self)
        (hrest.ended more) (by omega) mark') fun mark => ih.items hrest hr' (by omega) mark
  firstMember {depth value members blanks gap head tail} key hb hg h hrest hr more hfuel mark := by
    have htail := hrest.length_pos
    have hr' := fun entry hmem => hr entry (List.mem_cons_of_mem (key, value) hmem)
    obtain ⟨mark₁, mark₂, hread⟩ := readMembers_first fuel depth hb key mark
    rw [hread]
    exact .withMember (ih.value hg h (hr _ List.mem_cons_self) (hrest.ended more) (by omega) mark₂)
      mark₁ fun mark => ih.members hrest hr' (by omega) mark
  members {depth members tail more} h hr hfuel mark := by
    cases h with
    | stop hb =>
      obtain ⟨mark', hread⟩ := readMembers_stop fuel depth false hb mark
      rw [List.append_assoc, List.singleton_append, hread]
      exact ⟨[], mark', .nil, rfl⟩
    | @next key value members blanks gap head tail hb hg hhead hrest =>
      have htail := hrest.length_pos
      have hr' := fun entry hmem => hr entry (List.mem_cons_of_mem (key, value) hmem)
      simp only [List.length_cons, List.length_append] at hfuel
      simp only [List.cons_append, List.append_assoc]
      obtain ⟨mark₁, mark₂, hread⟩ := readMembers_next fuel depth hb _ mark
      rw [hread]
      exact .withMember (ih.value hg hhead (hr _ List.mem_cons_self) (hrest.ended more) (by omega)
        mark₂) mark₁ fun mark => ih.members hrest hr' (by omega) mark

theorem suffices_all (fuel : Nat) : Suffices fuel := by
  induction fuel with
  | zero => exact suffices_zero
  | succ fuel ih => exact suffices_succ ih

/-! ## Texts -/

/-- Reads a text whose lists and objects may be nested so deep. -/
def readWithin (depth : Nat) (s : String) : Node × Option Malformation :=
  match readValue (2 * s.length + 2) depth (.ofString s) with
  | (node, none) => (node, none)
  | (node, some after) =>
    let stop := after.skipBlanks
    (node, if stop.rest.isEmpty then none else some (stop.faultAhead .trailingText))

/-- Decodes a text whose lists and objects may be nested so deep. -/
def decodeWithin {α : Type} (depth : Nat) (s : String) (decoder : Node → Decoded α) : Decoded α :=
  match readWithin depth s with
  | (node, after) => do
    let result ← decoder node
    match after with
    | some fault => .error (.malformed fault)
    | none => .ok result

theorem decodeWithin_depthLimit {α : Type} (s : String) (decoder : Node → Decoded α) :
    decodeWithin depthLimit s decoder = decode s decoder := rfl

/-- A written form of a readable tree is read to its end. -/
theorem readWithin_written {depth : Nat} {json : Json} {text : String}
    (h : Written json text.toList) (hr : Readable depth json) :
    ∃ node, Shows true json node ∧ readWithin depth text = (node, none) := by
  have hread := (suffices_all (2 * text.length + 2)).value allBlank_nil h hr ended_nil
    (by rw [String.length_toList]; omega) ⟨1, 0⟩
  rw [List.nil_append, List.append_nil] at hread
  obtain ⟨node, mark, hshows, hread⟩ := hread
  refine ⟨node, hshows, ?_⟩
  rw [readWithin, Cursor.ofString, hread]
  rfl

/-- Decoding a written form of a readable tree gives the decoder's result for that tree. -/
theorem decodeWithin_written {α : Type} {decoder : Node → Decoded α} {depth : Nat} {json : Json}
    {a : α} (h : Decodes decoder json a) {text : String} (ht : Written json text.toList)
    (hr : Readable depth json) : decodeWithin depth text decoder = .ok a := by
  obtain ⟨node, hshows, hread⟩ := readWithin_written ht hr
  rw [decodeWithin, hread]
  change (decoder node >>= fun result => Except.ok result) = _
  rw [h.total hshows]
  rfl

end Json

end Gamebook
