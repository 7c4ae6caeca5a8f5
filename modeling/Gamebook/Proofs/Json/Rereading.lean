import Gamebook.Proofs.Json.Floats
import Gamebook.Proofs.Json.Written

/-!
# Reading back trees

A node `Shows` a tree if reading a written form of the tree may give that node: the same tree, but
for floats, which come back as `rereadNumber` says, or a part of it that is cut off where reading
stopped. Reading stops inside a written form only where lists and objects are nested too deeply or
a number is out of range; it never goes astray.

* `Json.Shows` : what nodes may come from a tree; whether all of it was read.
* `Json.reads_written` : reading a written form gives such a node, and goes on behind the form
  exactly if all was read.
-/

namespace Gamebook

namespace Json

/-! ## What nodes show -/

mutual

/-- The node shows the tree, all of it or cut off. -/
inductive Shows : Bool → Json → Node → Prop where
  | broken (json : Json) (fault : Malformation) : Shows false json (.broken fault)
  | null (span : Span) : Shows true .null (.null span)
  | bool (b : Bool) (span : Span) : Shows true (.bool b) (.bool b span)
  | int (n : Int) (span : Span) : Shows true (.int n) (.int n span)
  | number {x y : Float} (hx : x.isFinite = true) (h : rereadNumber x = some y) (span : Span) :
    Shows true (.number x) (.number y span)
  | notFinite {x : Float} (h : x.isFinite = false) (span : Span) :
    Shows true (.number x) (.null span)
  | text (s : String) (span : Span) : Shows true (.text s) (.text s span)
  | array {whole : Bool} {items : List Json} {nodes : List Node} {cut : Option Malformation}
    (h : ShowsItems whole items nodes cut) (span : Span) :
    Shows whole (.array items) (.array nodes cut span)
  | object {whole : Bool} {members : List (String × Json)} {nodes : List (String × Mark × Node)}
    {cut : Option Malformation} (h : ShowsMembers whole members nodes cut) (span : Span) :
    Shows whole (.object members) (.object nodes cut span)

/-- The nodes show the items, all of them or up to where reading stopped. -/
inductive ShowsItems : Bool → List Json → List Node → Option Malformation → Prop where
  | nil : ShowsItems true [] [] none
  | cut (items : List Json) (fault : Malformation) : ShowsItems false items [] (some fault)
  | stop {item : Json} {node : Node} (h : Shows false item node) (items : List Json) :
    ShowsItems false (item :: items) [node] none
  | cons {whole : Bool} {item : Json} {items : List Json} {node : Node} {nodes : List Node}
    {cut : Option Malformation} (h : Shows true item node)
    (hrest : ShowsItems whole items nodes cut) :
    ShowsItems whole (item :: items) (node :: nodes) cut

/-- The nodes show the members, all of them or up to where reading stopped. -/
inductive ShowsMembers : Bool → List (String × Json) → List (String × Mark × Node) →
    Option Malformation → Prop where
  | nil : ShowsMembers true [] [] none
  | cut (members : List (String × Json)) (fault : Malformation) :
    ShowsMembers false members [] (some fault)
  | stop {key : String} {value : Json} {node : Node} (h : Shows false value node) (mark : Mark)
    (members : List (String × Json)) :
    ShowsMembers false ((key, value) :: members) [(key, mark, node)] none
  | cons {whole : Bool} {key : String} {value : Json} {members : List (String × Json)}
    {node : Node} {nodes : List (String × Mark × Node)} {cut : Option Malformation} (mark : Mark)
    (h : Shows true value node) (hrest : ShowsMembers whole members nodes cut) :
    ShowsMembers whole ((key, value) :: members) ((key, mark, node) :: nodes) cut

end

/-- The result of reading a tree with this text behind it. -/
inductive Reads (json : Json) (more : List Char) : Node × Option Cursor → Prop where
  | whole {node : Node} (h : Shows true json node) (mark : Mark) :
    Reads json more (node, some ⟨more, mark⟩)
  | cut {node : Node} (h : Shows false json node) : Reads json more (node, none)

/-- The result of reading items to the end of their list, with this text behind it. -/
inductive ReadsItems (items : List Json) (more : List Char) :
    List Node × Option Malformation × Option Cursor → Prop where
  | whole {nodes : List Node} (h : ShowsItems true items nodes none) (mark : Mark) :
    ReadsItems items more (nodes, none, some ⟨more, mark⟩)
  | cut {nodes : List Node} {cut : Option Malformation} (h : ShowsItems false items nodes cut) :
    ReadsItems items more (nodes, cut, none)

/-- The result of reading members to the end of their object, with this text behind it. -/
inductive ReadsMembers (members : List (String × Json)) (more : List Char) :
    List (String × Mark × Node) × Option Malformation × Option Cursor → Prop where
  | whole {nodes : List (String × Mark × Node)} (h : ShowsMembers true members nodes none)
    (mark : Mark) : ReadsMembers members more (nodes, none, some ⟨more, mark⟩)
  | cut {nodes : List (String × Mark × Node)} {cut : Option Malformation}
    (h : ShowsMembers false members nodes cut) : ReadsMembers members more (nodes, cut, none)

theorem Reads.of_broken (json : Json) (more : List Char) (fault : Malformation) :
    Reads json more (.broken fault, none) := .cut (.broken json fault)

/-! ## How written forms begin -/

theorem not_isBlank_of_isDigit {c : Char} (h : c.isDigit = true) : ¬ IsBlank c := by
  rintro (rfl | rfl | rfl | rfl) <;> exact absurd h (by decide)

theorem head_int (n : Int) :
    ∃ c rest, (toString n).toList = c :: rest ∧ (c = '-' ∨ c.isDigit = true) := by
  obtain ⟨-, htext⟩ | ⟨-, htext⟩ := toList_toString n
  · obtain ⟨c, rest, hdigits⟩ := List.exists_cons_of_ne_nil
      (@Nat.toDigits_ne_nil n.toNat 10)
    refine ⟨c, rest, htext.trans hdigits, .inr ?_⟩
    exact allDigits_toDigits n.toNat c (by rw [hdigits]; exact List.mem_cons_self)
  · exact ⟨'-', _, htext, .inl rfl⟩

theorem head_float {x : Float} {b : Binary} (h : Binary.ofFloat? x = some b) :
    ∃ c rest, (Layout.data.text x).toList = c :: rest ∧ (c = '-' ∨ c.isDigit = true) := by
  obtain ⟨text, hfloat, htext⟩ := Layout.floatText_data h
  obtain ⟨digits, tail, hdigits, hall, -, rfl⟩ := hfloat.split
  obtain ⟨c, rest, rfl⟩ := List.exists_cons_of_ne_nil hdigits
  rcases htext with htext | htext
  · exact ⟨c, rest ++ tail, htext, .inr (hall c List.mem_cons_self)⟩
  · exact ⟨'-', _, htext, .inl rfl⟩

/-- The text of a float that is not finite begins with a sign or with a letter that begins no
value. -/
theorem head_notFinite {x : Float} (h : Binary.ofFloat? x = none) :
    (Layout.data.text x).toList = ['N', 'a', 'N'] ∨
      (Layout.data.text x).toList = ['-', 'i', 'n', 'f'] ∨
      (Layout.data.text x).toList = ['i', 'n', 'f'] := by
  simp only [Layout.text, h]
  split
  · exact .inl rfl
  · split
    · exact .inr (.inl rfl)
    · exact .inr (.inr rfl)

/-- A written form begins with a character that is no blank and ends no list. -/
theorem Written.head {json : Json} {text : List Char} (h : Written json text) :
    ∃ c rest, text = c :: rest ∧ ¬ IsBlank c ∧ c ≠ ']' := by
  have hnumber {text : List Char}
      (h : ∃ c rest, text = c :: rest ∧ (c = '-' ∨ c.isDigit = true)) :
      ∃ c rest, text = c :: rest ∧ ¬ IsBlank c ∧ c ≠ ']' := by
    obtain ⟨c, rest, rfl, rfl | hdigit⟩ := h
    · exact ⟨_, rest, rfl, by unfold IsBlank; decide, by decide⟩
    · refine ⟨c, rest, rfl, not_isBlank_of_isDigit hdigit, ?_⟩
      rintro rfl
      exact absurd hdigit (by decide)
  cases h with
  | int _ _ => exact hnumber (head_int _)
  | number x =>
    unfold numberLiteral
    split
    · cases hx : Binary.ofFloat? x with
      | some b => exact hnumber (head_float hx)
      | none =>
        rcases head_notFinite hx with htext | htext | htext <;> rw [htext] <;>
          exact ⟨_, _, rfl, by unfold IsBlank; decide, by decide⟩
    · exact ⟨'n', _, rfl, by unfold IsBlank; decide, by decide⟩
  | _ => exact ⟨_, _, rfl, by unfold IsBlank; decide, by decide⟩

theorem Written.solid {json : Json} {text : List Char} (h : Written json text)
    (more : List Char) : Solid (text ++ more) := by
  obtain ⟨c, rest, rfl, hc, -⟩ := h.head
  exact solid_cons hc _

private theorem ended_blanks {blanks : List Char} (hb : AllBlank blanks) {more : List Char}
    (h : Ended more) : Ended (blanks ++ more) := by
  cases blanks with
  | nil => exact h
  | cons c blanks =>
    refine ended_cons ?_ _
    rcases hb c List.mem_cons_self with rfl | rfl | rfl | rfl <;> unfold GoesOn <;> decide

theorem WrittenItems.ended {items : List Json} {text : List Char} (h : WrittenItems items text)
    (more : List Char) : Ended (text ++ more) := by
  cases h with
  | stop hb =>
    rw [List.append_assoc]
    exact ended_blanks hb (ended_cons (by unfold GoesOn; decide) _)
  | next _ _ _ => exact ended_cons (by unfold GoesOn; decide) _

theorem WrittenMembers.ended {members : List (String × Json)} {text : List Char}
    (h : WrittenMembers members text) (more : List Char) : Ended (text ++ more) := by
  cases h with
  | stop hb =>
    rw [List.append_assoc]
    exact ended_blanks hb (ended_cons (by unfold GoesOn; decide) _)
  | next _ _ _ _ => exact ended_cons (by unfold GoesOn; decide) _

/-! ## Reading one value -/

variable {more : List Char}

/-- Blanks in front of a value are passed over. -/
theorem readValue_blanks (fuel depth : Nat) {blanks text : List Char} (hb : AllBlank blanks)
    (ht : Solid text) (mark : Mark) : ∃ mark', readValue (fuel + 1) depth ⟨blanks ++ text, mark⟩ =
      readValue (fuel + 1) depth ⟨text, mark'⟩ := by
  obtain ⟨mark', hskip⟩ := Cursor.rest_skipBlanks hb ht mark
  have hsolid := @Cursor.skipBlanks_solid ⟨text, mark'⟩ ht
  refine ⟨mark', ?_⟩
  rw [readValue, readValue, hskip, hsolid]

/-- A value that begins with a sign or a digit is a number. -/
theorem readValue_number (fuel depth : Nat) {c : Char} (hc : c = '-' ∨ c.isDigit = true)
    (text : List Char) (mark : Mark) :
    readValue (fuel + 1) depth ⟨c :: text, mark⟩ =
      match readSigned ⟨c :: text, mark⟩ with
      | .ok (.int n, after) => (.int n ⟨mark, after.mark⟩, some after)
      | .ok (.number x, after) => (.number x ⟨mark, after.mark⟩, some after)
      | .error fault => (.broken fault, none) := by
  have hblank : ¬ IsBlank c := by
    rcases hc with rfl | hdigit
    · unfold IsBlank; decide
    · exact not_isBlank_of_isDigit hdigit
  have hne (d : Char) (hd : d.isDigit = false) (hd' : d ≠ '-') : c ≠ d := by
    rintro rfl
    rcases hc with rfl | hdigit
    · exact hd' rfl
    · rw [hd] at hdigit; cases hdigit
  have hsigned : readSigned ⟨c :: text, mark⟩ = readNumber (decide (c = '-'))
      (if c = '-' then Cursor.step ⟨c :: text, mark⟩ else ⟨c :: text, mark⟩) := by
    by_cases hminus : c = '-'
    · subst hminus; rfl
    · rw [readSigned_plus hminus, if_neg hminus, decide_eq_false hminus]
  rw [readValue, Cursor.skipBlanks_solid (solid_cons hblank _)]
  dsimp only
  split
  · next heq => cases heq
  · next heq => cases heq; exact absurd rfl (hne 'n' rfl (by decide))
  · next heq => cases heq; exact absurd rfl (hne 't' rfl (by decide))
  · next heq => cases heq; exact absurd rfl (hne 'f' rfl (by decide))
  · next heq => cases heq; exact absurd rfl (hne '"' rfl (by decide))
  · next heq => cases heq; exact absurd rfl (hne '[' rfl (by decide))
  · next heq => cases heq; exact absurd rfl (hne '{' rfl (by decide))
  · next heq =>
    cases heq
    rw [hsigned]
    exact if_pos hc

/-- The text of a float reads back as what `rereadNumber` says, if at all. -/
theorem reads_float {x : Float} (hx : x.isFinite = true) (hm : Ended more) (fuel depth : Nat)
    (mark : Mark) : Reads (.number x) more
      (readValue (fuel + 1) depth ⟨(Layout.data.text x).toList ++ more, mark⟩) := by
  cases hb : Binary.ofFloat? x with
  | some b =>
    obtain ⟨c, rest, htext, hc⟩ := head_float hb
    have hread := readSigned_float hm hb mark
    rw [htext, List.cons_append] at hread ⊢
    rw [readValue_number fuel depth hc]
    obtain ⟨-, fault, hread⟩ | ⟨y, mark', hy, hread⟩ := hread
    · rw [hread]
      exact .of_broken _ _ _
    · rw [hread]
      exact .whole (.number hx hy _) _
  | none =>
    -- not the text of a number at all
    rcases head_notFinite hb with htext | htext | htext <;> rw [htext]
    · exact .of_broken _ _ _
    · exact .of_broken _ _ _
    · exact .of_broken _ _ _

theorem readValue_text (fuel depth : Nat) (text : List Char) (mark : Mark) :
    readValue (fuel + 1) depth ⟨'"' :: text, mark⟩ =
      match readString (text.length + 1) [] ⟨text, mark.after '"'⟩ with
      | .ok (s, after) => (.text s ⟨mark, after.mark⟩, some after)
      | .error fault => (.broken fault, none) := rfl

theorem readValue_array (fuel depth : Nat) (text : List Char) (mark : Mark) :
    readValue (fuel + 1) depth ⟨'[' :: text, mark⟩ =
      if depth = 0 then (.broken (Cursor.faultAhead ⟨'[' :: text, mark⟩ .tooDeep), none)
      else
        let (items, cut, after) := readItems fuel (depth - 1) true ⟨text, mark.after '['⟩
        (.array items cut ⟨mark, (after.getD ⟨'[' :: text, mark⟩).mark⟩, after) := rfl

theorem readValue_object (fuel depth : Nat) (text : List Char) (mark : Mark) :
    readValue (fuel + 1) depth ⟨'{' :: text, mark⟩ =
      if depth = 0 then (.broken (Cursor.faultAhead ⟨'{' :: text, mark⟩ .tooDeep), none)
      else
        let (members, cut, after) := readMembers fuel (depth - 1) true ⟨text, mark.after '{'⟩
        (.object members cut ⟨mark, (after.getD ⟨'{' :: text, mark⟩).mark⟩, after) := rfl

theorem readValue_quoted (s : String) (more : List Char) (fuel depth : Nat) (mark : Mark) :
    ∃ mark', readValue (fuel + 1) depth ⟨'"' :: (escape s.toList ++ ['"']) ++ more, mark⟩ =
      (.text s ⟨mark, mark'⟩, some ⟨more, mark'⟩) := by
  have hfuel : (escape s.toList).length < (escape s.toList ++ '"' :: more).length + 1 := by
    rw [List.length_append]
    omega
  obtain ⟨mark', hread⟩ := readString_escape s.toList [] more hfuel (mark.after '"')
  refine ⟨mark', ?_⟩
  rw [List.cons_append, List.append_assoc, List.singleton_append, readValue_text, hread,
    List.reverse_nil, List.nil_append, String.ofList_toList]

/-- A string literal reads back. -/
theorem reads_text (s : String) (fuel depth : Nat) (mark : Mark) : Reads (.text s) more
    (readValue (fuel + 1) depth ⟨'"' :: (escape s.toList ++ ['"']) ++ more, mark⟩) := by
  obtain ⟨mark', hread⟩ := readValue_quoted s more fuel depth mark
  rw [hread]
  exact .whole (.text s _) mark'

/-! ## Reading lists and objects -/

/-- The rest of a list whose next item was read. -/
def withItem (fuel depth : Nat) :
    Node × Option Cursor → List Node × Option Malformation × Option Cursor
  | (node, some after) =>
    let (items, cut, stop) := readItems fuel depth false after
    (node :: items, cut, stop)
  | (node, none) => ([node], none, none)

theorem readItems_stop (fuel depth : Nat) (first : Bool) {blanks : List Char}
    (hb : AllBlank blanks) (mark : Mark) :
    ∃ mark', readItems (fuel + 1) depth first ⟨blanks ++ ']' :: more, mark⟩ =
      ([], none, some ⟨more, mark'⟩) := by
  obtain ⟨mark', hskip⟩ := Cursor.rest_skipBlanks hb
    (solid_cons (c := ']') (by unfold IsBlank; decide) more) mark
  exact ⟨mark'.after ']', by rw [readItems, hskip]; rfl⟩

theorem readItems_first (fuel depth : Nat) {blanks text : List Char} (hb : AllBlank blanks)
    {c : Char} (hc : ¬ IsBlank c) (hclose : c ≠ ']') (mark : Mark) :
    ∃ mark', readItems (fuel + 1) depth true ⟨blanks ++ c :: text, mark⟩ =
      withItem fuel depth (readValue fuel depth ⟨c :: text, mark'⟩) := by
  obtain ⟨mark', hskip⟩ := Cursor.rest_skipBlanks hb (solid_cons hc text) mark
  refine ⟨mark', ?_⟩
  rw [readItems, hskip]
  dsimp only
  split
  · next heq => cases heq
  · next heq => cases heq; exact absurd rfl hclose
  · rw [if_pos rfl]
    rfl

theorem readItems_comma (fuel depth : Nat) (text : List Char) (mark : Mark) :
    readItems (fuel + 1) depth false ⟨',' :: text, mark⟩ =
      let next := Cursor.skipBlanks ⟨text, mark.after ','⟩
      match next.rest with
      | ']' :: _ => ([], some (next.faultAhead .trailingComma), none)
      | [] => ([], some (next.faultAhead .endInValue), none)
      | _ => withItem fuel depth (readValue fuel depth next) := rfl

theorem readItems_next (fuel depth : Nat) {blanks text : List Char} (hb : AllBlank blanks)
    {c : Char} (hc : ¬ IsBlank c) (hclose : c ≠ ']') (mark : Mark) :
    ∃ mark', readItems (fuel + 1) depth false ⟨',' :: (blanks ++ c :: text), mark⟩ =
      withItem fuel depth (readValue fuel depth ⟨c :: text, mark'⟩) := by
  obtain ⟨mark', hskip⟩ := Cursor.rest_skipBlanks hb (solid_cons hc text) (mark.after ',')
  refine ⟨mark', ?_⟩
  rw [readItems_comma, hskip]
  dsimp only
  split
  · next heq => cases heq; exact absurd rfl hclose
  · next heq => cases heq
  · rfl

/-- The rest of an object whose next name was read, behind the name and its colon. -/
def withMember (fuel depth : Nat) (key : String) (mark : Mark) :
    Node × Option Cursor → List (String × Mark × Node) × Option Malformation × Option Cursor
  | (node, some after) =>
    let (members, cut, stop) := readMembers fuel depth false after
    ((key, mark, node) :: members, cut, stop)
  | (node, none) => ([(key, mark, node)], none, none)

theorem readMembers_stop (fuel depth : Nat) (first : Bool) {blanks : List Char}
    (hb : AllBlank blanks) (mark : Mark) :
    ∃ mark', readMembers (fuel + 1) depth first ⟨blanks ++ '}' :: more, mark⟩ =
      ([], none, some ⟨more, mark'⟩) := by
  obtain ⟨mark', hskip⟩ := Cursor.rest_skipBlanks hb
    (solid_cons (c := '}') (by unfold IsBlank; decide) more) mark
  exact ⟨mark'.after '}', by rw [readMembers, hskip]; rfl⟩

/-- A name reads back, and its value is read behind the colon. -/
private theorem readName (key : String) (text : List Char) (mark : Mark) :
    ∃ mark', readString ((nameText key ++ text).length) []
        (Cursor.step ⟨nameText key ++ text, mark⟩) = .ok (key, ⟨':' :: text, mark'⟩) := by
  have hfuel : (escape key.toList).length < (nameText key ++ text).length := by
    simp only [nameText, List.length_append, List.length_cons]
    omega
  obtain ⟨mark', hread⟩ := readString_escape key.toList [] (':' :: text) hfuel (mark.after '"')
  refine ⟨mark', ?_⟩
  rw [List.reverse_nil, List.nil_append, String.ofList_toList] at hread
  rw [← hread]
  simp only [nameText, List.cons_append, List.append_assoc, Cursor.step, List.nil_append]

/-- Reads a member from its name on, and the rest of the object. -/
def readMember (fuel depth : Nat) (start : Cursor) :
    List (String × Mark × Node) × Option Malformation × Option Cursor :=
  match readString (start.rest.length) [] start.step with
  | .error fault => ([], some fault, none)
  | .ok (key, behind) =>
    let colon := behind.skipBlanks
    match colon.rest with
    | ':' :: _ => withMember fuel depth key colon.mark (readValue fuel depth colon.step)
    | [] => ([(key, colon.mark, .broken (colon.faultAhead .endInObject))], none, none)
    | _ => ([(key, colon.mark, .broken (colon.faultAhead .expectedColon))], none, none)

theorem readMember_name (fuel depth : Nat) (key : String) (text : List Char) (mark : Mark) :
    ∃ mark₁ mark₂, readMember fuel depth ⟨nameText key ++ text, mark⟩ =
      withMember fuel depth key mark₁ (readValue fuel depth ⟨text, mark₂⟩) := by
  obtain ⟨mark', hname⟩ := readName key text mark
  refine ⟨mark', mark'.after ':', ?_⟩
  rw [readMember]
  dsimp only
  rw [hname]
  rfl

theorem readMembers_quote (fuel depth : Nat) (text : List Char) (mark : Mark) :
    readMembers (fuel + 1) depth true ⟨'"' :: text, mark⟩ =
      readMember fuel depth ⟨'"' :: text, mark⟩ := rfl

theorem readMembers_comma (fuel depth : Nat) (text : List Char) (mark : Mark) :
    readMembers (fuel + 1) depth false ⟨',' :: text, mark⟩ =
      let next := Cursor.skipBlanks ⟨text, mark.after ','⟩
      match next.rest with
      | '"' :: _ => readMember fuel depth next
      | '}' :: _ => ([], some (next.faultAhead .trailingComma), none)
      | [] => ([], some (next.faultAhead .endInValue), none)
      | _ => ([], some (next.faultAhead .keyNotString), none) := rfl

theorem readMembers_blanks (fuel depth : Nat) (first : Bool) {blanks text : List Char}
    (hb : AllBlank blanks) (ht : Solid text) (mark : Mark) :
    ∃ mark', readMembers (fuel + 1) depth first ⟨blanks ++ text, mark⟩ =
      readMembers (fuel + 1) depth first ⟨text, mark'⟩ := by
  obtain ⟨mark', hskip⟩ := Cursor.rest_skipBlanks hb ht mark
  have hsolid := @Cursor.skipBlanks_solid ⟨text, mark'⟩ ht
  refine ⟨mark', ?_⟩
  rw [readMembers, readMembers, hskip, hsolid]

theorem readMembers_first (fuel depth : Nat) {blanks text : List Char} (hb : AllBlank blanks)
    (key : String) (mark : Mark) :
    ∃ mark₁ mark₂, readMembers (fuel + 1) depth true ⟨blanks ++ (nameText key ++ text), mark⟩ =
      withMember fuel depth key mark₁ (readValue fuel depth ⟨text, mark₂⟩) := by
  have hsolid : Solid (nameText key ++ text) := solid_cons (by unfold IsBlank; decide) _
  obtain ⟨mark', hskip⟩ := readMembers_blanks fuel depth true hb hsolid mark
  obtain ⟨mark₁, mark₂, hname⟩ := readMember_name fuel depth key text mark'
  refine ⟨mark₁, mark₂, ?_⟩
  rw [hskip, ← hname]
  exact readMembers_quote fuel depth _ mark'

theorem readMembers_next (fuel depth : Nat) {blanks text : List Char} (hb : AllBlank blanks)
    (key : String) (mark : Mark) :
    ∃ mark₁ mark₂,
      readMembers (fuel + 1) depth false ⟨',' :: (blanks ++ (nameText key ++ text)), mark⟩ =
        withMember fuel depth key mark₁ (readValue fuel depth ⟨text, mark₂⟩) := by
  have hsolid : Solid (nameText key ++ text) := solid_cons (by unfold IsBlank; decide) _
  obtain ⟨mark', hskip⟩ := Cursor.rest_skipBlanks hb hsolid (mark.after ',')
  obtain ⟨mark₁, mark₂, hname⟩ := readMember_name fuel depth key text mark'
  refine ⟨mark₁, mark₂, ?_⟩
  rw [readMembers_comma, hskip, ← hname]
  rfl

theorem ReadsItems.withItem {fuel depth : Nat} {item : Json} {items : List Json}
    {tail : List Char} {result : Node × Option Cursor} (h : Reads item (tail ++ more) result)
    (hrest : ∀ mark, ReadsItems items more (readItems fuel depth false ⟨tail ++ more, mark⟩)) :
    ReadsItems (item :: items) more (withItem fuel depth result) := by
  cases h with
  | cut h => exact .cut (.stop h items)
  | whole h mark =>
    have hread := hrest mark
    simp only [Json.withItem]
    generalize readItems fuel depth false ⟨tail ++ more, mark⟩ = rest at hread
    cases hread with
    | whole hitems mark' => exact .whole (.cons h hitems) mark'
    | cut hitems => exact .cut (.cons h hitems)

theorem ReadsMembers.withMember {fuel depth : Nat} {key : String} {value : Json}
    {members : List (String × Json)} {tail : List Char} {result : Node × Option Cursor}
    (h : Reads value (tail ++ more) result) (mark : Mark)
    (hrest : ∀ mark, ReadsMembers members more
      (readMembers fuel depth false ⟨tail ++ more, mark⟩)) :
    ReadsMembers ((key, value) :: members) more (withMember fuel depth key mark result) := by
  cases h with
  | cut h => exact .cut (.stop h mark members)
  | whole h mark' =>
    have hread := hrest mark'
    simp only [Json.withMember]
    generalize readMembers fuel depth false ⟨tail ++ more, mark'⟩ = rest at hread
    cases hread with
    | whole hmembers mark'' => exact .whole (.cons mark h hmembers) mark''
    | cut hmembers => exact .cut (.cons mark h hmembers)

/-! ## Written forms read back -/

/-- With this fuel, reading gives what was written, as far as it goes. -/
structure ReadsBack (fuel : Nat) : Prop where
  value {json : Json} {blanks text more : List Char} (hb : AllBlank blanks)
    (h : Written json text) (hm : Ended more) (depth : Nat) (mark : Mark) :
    Reads json more (readValue fuel depth ⟨blanks ++ (text ++ more), mark⟩)
  firstItem {item : Json} {items : List Json} {blanks head tail : List Char}
    (hb : AllBlank blanks) (h : Written item head) (hrest : WrittenItems items tail)
    (more : List Char) (depth : Nat) (mark : Mark) : ReadsItems (item :: items) more
      (readItems fuel depth true ⟨blanks ++ (head ++ (tail ++ more)), mark⟩)
  items {items : List Json} {tail more : List Char} (h : WrittenItems items tail) (depth : Nat)
    (mark : Mark) : ReadsItems items more (readItems fuel depth false ⟨tail ++ more, mark⟩)
  firstMember {value : Json} {members : List (String × Json)}
    {blanks gap head tail : List Char} (key : String) (hb : AllBlank blanks) (hg : AllBlank gap)
    (h : Written value head) (hrest : WrittenMembers members tail) (more : List Char)
    (depth : Nat) (mark : Mark) :
    ReadsMembers ((key, value) :: members) more (readMembers fuel depth true
      ⟨blanks ++ (nameText key ++ (gap ++ (head ++ (tail ++ more)))), mark⟩)
  members {members : List (String × Json)} {tail more : List Char}
    (h : WrittenMembers members tail) (depth : Nat) (mark : Mark) :
    ReadsMembers members more (readMembers fuel depth false ⟨tail ++ more, mark⟩)

theorem readsBack_zero : ReadsBack 0 where
  value _ _ _ _ _ := .of_broken _ _ _
  firstItem _ _ _ _ _ _ := .cut (.cut _ _)
  items _ _ _ := .cut (.cut _ _)
  firstMember _ _ _ _ _ _ _ _ := .cut (.cut _ _)
  members _ _ _ := .cut (.cut _ _)

/-- A value without blanks in front of it. -/
private theorem reads_solid {fuel : Nat} (ih : ReadsBack fuel) {json : Json} {text : List Char}
    (h : Written json text) (hm : Ended more) (depth : Nat) (mark : Mark) :
    Reads json more (readValue (fuel + 1) depth ⟨text ++ more, mark⟩) := by
  cases h with
  | null => exact .whole (.null _) _
  | yes => exact .whole (.bool true _) _
  | no => exact .whole (.bool false _) _
  | @int n hlow hhigh =>
    obtain ⟨c, rest, htext, hc⟩ := head_int n
    obtain ⟨mark', hread⟩ := readSigned_int hm hlow hhigh mark
    rw [htext, List.cons_append] at hread ⊢
    rw [readValue_number fuel depth hc, hread]
    exact .whole (.int n _) mark'
  | number x =>
    unfold numberLiteral
    split
    · next hx => exact reads_float hx hm fuel depth mark
    · next hx => exact .whole (.notFinite (Bool.eq_false_iff.mpr hx) _) _
  | text s => exact reads_text s fuel depth mark
  | emptyArray =>
    rw [List.cons_append, readValue_array]
    split
    · exact .of_broken _ _ _
    · cases fuel with
      | zero => exact .cut (.array (.cut _ _) _)
      | succ fuel => exact .whole (.array .nil _) _
  | @array item items blanks head tail hb hhead htail =>
    rw [List.cons_append, readValue_array, List.append_assoc, List.append_assoc]
    split
    · exact .of_broken _ _ _
    · have hread := ih.firstItem hb hhead htail more (depth - 1) (mark.after '[')
      generalize readItems fuel (depth - 1) true
        ⟨blanks ++ (head ++ (tail ++ more)), mark.after '['⟩ = result at hread
      cases hread with
      | whole h mark' => exact .whole (.array h _) mark'
      | cut h => exact .cut (.array h _)
  | emptyObject =>
    rw [List.cons_append, readValue_object]
    split
    · exact .of_broken _ _ _
    · cases fuel with
      | zero => exact .cut (.object (.cut _ _) _)
      | succ fuel => exact .whole (.object .nil _) _
  | @object key value members blanks gap head tail hb hg hhead htail =>
    rw [List.cons_append, readValue_object]
    simp only [List.append_assoc]
    split
    · exact .of_broken _ _ _
    · have hread := ih.firstMember key hb hg hhead htail more (depth - 1) (mark.after '{')
      generalize readMembers fuel (depth - 1) true
        ⟨blanks ++ (nameText key ++ (gap ++ (head ++ (tail ++ more)))), mark.after '{'⟩ =
          result at hread
      cases hread with
      | whole h mark' => exact .whole (.object h _) mark'
      | cut h => exact .cut (.object h _)

theorem readsBack_succ {fuel : Nat} (ih : ReadsBack fuel) : ReadsBack (fuel + 1) where
  value {json blanks text more} hb h hm depth mark := by
    obtain ⟨mark', hskip⟩ := readValue_blanks fuel depth hb (h.solid more) mark
    rw [hskip]
    exact reads_solid ih h hm depth mark'
  firstItem hb h hrest more depth mark := by
    obtain ⟨c, rest, rfl, hblank, hclose⟩ := h.head
    obtain ⟨mark', hread⟩ := readItems_first fuel depth hb hblank hclose mark
    rw [List.cons_append, hread]
    exact .withItem (ih.value allBlank_nil h (hrest.ended more) depth mark') (ih.items hrest depth)
  items {items tail more} h depth mark := by
    cases h with
    | stop hb =>
      obtain ⟨mark', hread⟩ := readItems_stop fuel depth false hb mark
      rw [List.append_assoc, List.singleton_append, hread]
      exact .whole .nil mark'
    | next hb hhead hrest =>
      obtain ⟨c, rest, rfl, hblank, hclose⟩ := hhead.head
      simp only [List.cons_append, List.append_assoc]
      obtain ⟨mark', hread⟩ := readItems_next fuel depth hb hblank hclose mark
      rw [hread]
      exact .withItem (ih.value allBlank_nil hhead (hrest.ended more) depth mark')
        (ih.items hrest depth)
  firstMember key hb hg h hrest more depth mark := by
    obtain ⟨mark₁, mark₂, hread⟩ := readMembers_first fuel depth hb key mark
    rw [hread]
    exact .withMember (ih.value hg h (hrest.ended more) depth mark₂) mark₁
      (ih.members hrest depth)
  members {members tail more} h depth mark := by
    cases h with
    | stop hb =>
      obtain ⟨mark', hread⟩ := readMembers_stop fuel depth false hb mark
      rw [List.append_assoc, List.singleton_append, hread]
      exact .whole .nil mark'
    | next hb hg hhead hrest =>
      simp only [List.cons_append, List.append_assoc]
      obtain ⟨mark₁, mark₂, hread⟩ := readMembers_next fuel depth hb _ mark
      rw [hread]
      exact .withMember (ih.value hg hhead (hrest.ended more) depth mark₂) mark₁
        (ih.members hrest depth)

theorem readsBack (fuel : Nat) : ReadsBack fuel := by
  induction fuel with
  | zero => exact readsBack_zero
  | succ fuel ih => exact readsBack_succ ih

/-- Reading a written form gives the tree that was written, unless reading stopped inside it; then
there is nothing wrong behind it. -/
theorem reads_written {json : Json} {text : String} (h : Written json text.toList) :
    ∃ whole, Shows whole json (read text).1 ∧ (read text).2 = none := by
  have hread := (readsBack (2 * text.length + 2)).value allBlank_nil h ended_nil depthLimit ⟨1, 0⟩
  rw [List.nil_append, List.append_nil] at hread
  rw [read, Cursor.ofString]
  generalize readValue (2 * text.length + 2) depthLimit ⟨text.toList, ⟨1, 0⟩⟩ = result at hread
  cases hread with
  | whole h mark => exact ⟨true, h, rfl⟩
  | cut h => exact ⟨false, h, rfl⟩

end Json

end Gamebook
