import Gamebook.Proofs.Json.Strings

/-!
# Written forms

`Json.Written` relates a tree to the texts it may be written as: literals, brackets, commas and
colons, with blanks in front of items, names and values. The compact and the indented form are two
of these texts, so whatever reads all written forms reads both.

* `Json.Fits` : the integers of a tree fit 64 bits, signed or unsigned.
* `Json.written_compact`, `Json.written_indented` : the two forms in use.
-/

namespace Gamebook

namespace Json

/-! ## The relation -/

/-- All characters are blanks. -/
def AllBlank (text : List Char) : Prop := ∀ c ∈ text, IsBlank c

/-- A name with its colon. -/
def nameText (key : String) : List Char := '"' :: (escape key.toList ++ ['"', ':'])

mutual

/-- The tree may be written as the text. -/
inductive Written : Json → List Char → Prop where
  | null : Written .null ['n', 'u', 'l', 'l']
  | yes : Written (.bool true) ['t', 'r', 'u', 'e']
  | no : Written (.bool false) ['f', 'a', 'l', 's', 'e']
  | int {n : Int} (hlow : -0x8000000000000000 ≤ n) (hhigh : n < 0x10000000000000000) :
    Written (.int n) (toString n).toList
  | number (x : Float) : Written (.number x) (numberLiteral x).toList
  | text (s : String) : Written (.text s) ('"' :: (escape s.toList ++ ['"']))
  | emptyArray : Written (.array []) ['[', ']']
  | array {item : Json} {items : List Json} {blanks head tail : List Char}
    (hb : AllBlank blanks) (hhead : Written item head) (htail : WrittenItems items tail) :
    Written (.array (item :: items)) ('[' :: (blanks ++ (head ++ tail)))
  | emptyObject : Written (.object []) ['{', '}']
  | object {key : String} {value : Json} {members : List (String × Json)}
    {blanks gap head tail : List Char} (hb : AllBlank blanks) (hg : AllBlank gap)
    (hhead : Written value head) (htail : WrittenMembers members tail) :
    Written (.object ((key, value) :: members))
      ('{' :: (blanks ++ (nameText key ++ (gap ++ (head ++ tail)))))

/-- The items may be written as the text behind the item before them, to the end of the list. -/
inductive WrittenItems : List Json → List Char → Prop where
  | stop {blanks : List Char} (hb : AllBlank blanks) : WrittenItems [] (blanks ++ [']'])
  | next {item : Json} {items : List Json} {blanks head tail : List Char}
    (hb : AllBlank blanks) (hhead : Written item head) (htail : WrittenItems items tail) :
    WrittenItems (item :: items) (',' :: (blanks ++ (head ++ tail)))

/-- The members may be written as the text behind the member before them, to the end of the
object. -/
inductive WrittenMembers : List (String × Json) → List Char → Prop where
  | stop {blanks : List Char} (hb : AllBlank blanks) : WrittenMembers [] (blanks ++ ['}'])
  | next {key : String} {value : Json} {members : List (String × Json)}
    {blanks gap head tail : List Char} (hb : AllBlank blanks) (hg : AllBlank gap)
    (hhead : Written value head) (htail : WrittenMembers members tail) :
    WrittenMembers ((key, value) :: members)
      (',' :: (blanks ++ (nameText key ++ (gap ++ (head ++ tail)))))

end

/-- The integers of a tree fit 64 bits, signed or unsigned. -/
inductive Fits : Json → Prop where
  | null : Fits .null
  | bool (b : Bool) : Fits (.bool b)
  | int {n : Int} (hlow : -0x8000000000000000 ≤ n) (hhigh : n < 0x10000000000000000) :
    Fits (.int n)
  | number (x : Float) : Fits (.number x)
  | text (s : String) : Fits (.text s)
  | array {items : List Json} (h : ∀ item ∈ items, Fits item) : Fits (.array items)
  | object {members : List (String × Json)} (h : ∀ entry ∈ members, Fits entry.2) :
    Fits (.object members)

theorem allBlank_nil : AllBlank [] := by
  rintro c ⟨⟩

theorem toList_quote (s : String) : (quote s).toList = '"' :: (escape s.toList ++ ['"']) :=
  String.toList_ofList

theorem written_bool (b : Bool) : Written (.bool b) (if b then "true" else "false").toList := by
  cases b
  · exact .no
  · exact .yes

/-! ## The compact form -/

private theorem writtenItems_compact (item : Json) (items : List Json)
    (h : ∀ other ∈ item :: items, Written other other.compact.toList) :
    ∃ tail, WrittenItems items tail ∧
      (compactItems (item :: items)).toList ++ [']'] = item.compact.toList ++ tail := by
  induction items generalizing item with
  | nil => exact ⟨[']'], .stop allBlank_nil, rfl⟩
  | cons next rest ih =>
    obtain ⟨tail, htail, heq⟩ := ih next fun other ho => h other (List.mem_cons_of_mem item ho)
    have hnext := h next (List.mem_cons_of_mem item List.mem_cons_self)
    refine ⟨_, .next allBlank_nil hnext htail, ?_⟩
    rw [compactItems, String.toList_append, String.toList_append, List.append_assoc,
      List.append_assoc, heq]
    · rfl
    · exact List.cons_ne_nil _ _

private theorem writtenMembers_compact (key : String) (value : Json)
    (members : List (String × Json))
    (h : ∀ entry ∈ (key, value) :: members, Written entry.2 entry.2.compact.toList) :
    ∃ tail, WrittenMembers members tail ∧
      (compactMembers ((key, value) :: members)).toList ++ ['}'] =
        nameText key ++ (value.compact.toList ++ tail) := by
  induction members generalizing key value with
  | nil => exact ⟨['}'], .stop allBlank_nil, by simp [compactMembers, toList_quote, nameText]⟩
  | cons entry rest ih =>
    obtain ⟨nextKey, next⟩ := entry
    obtain ⟨tail, htail, heq⟩ := ih nextKey next
      fun entry he => h entry (List.mem_cons_of_mem _ he)
    have hnext := h (nextKey, next) (List.mem_cons_of_mem _ List.mem_cons_self)
    refine ⟨_, .next allBlank_nil allBlank_nil hnext htail, ?_⟩
    rw [compactMembers, String.toList_append, List.append_assoc, heq]
    · simp [toList_quote, nameText]
    · exact List.cons_ne_nil _ _

theorem written_compact {json : Json} (h : json.Fits) : Written json json.compact.toList := by
  induction h with
  | null => exact .null
  | bool b => rw [compact]; exact written_bool b
  | int hlow hhigh => rw [compact]; exact .int hlow hhigh
  | number x => rw [compact]; exact .number x
  | text s => rw [compact, toList_quote]; exact .text s
  | @array items h ih =>
    cases items with
    | nil => exact .emptyArray
    | cons item items =>
      obtain ⟨tail, htail, heq⟩ := writtenItems_compact item items ih
      rw [compact, String.append_assoc, String.toList_append, String.toList_append]
      change Written _ ('[' :: ((compactItems (item :: items)).toList ++ [']']))
      rw [heq]
      exact .array allBlank_nil (ih item List.mem_cons_self) htail
  | @object members h ih =>
    cases members with
    | nil => exact .emptyObject
    | cons entry members =>
      obtain ⟨key, value⟩ := entry
      obtain ⟨tail, htail, heq⟩ := writtenMembers_compact key value members ih
      rw [compact, String.append_assoc, String.toList_append, String.toList_append]
      change Written _ ('{' :: ((compactMembers ((key, value) :: members)).toList ++ ['}']))
      rw [heq]
      exact .object allBlank_nil allBlank_nil (ih _ List.mem_cons_self) htail

/-! ## The indented form -/

theorem allBlank_margin (depth : Nat) : AllBlank (margin depth).toList := by
  rw [margin, String.toList_ofList]
  intro c hc
  exact .inl (List.mem_replicate.mp hc).2

theorem allBlank_line (depth : Nat) : AllBlank ('\n' :: (margin depth).toList) := by
  intro c hc
  rcases List.mem_cons.mp hc with rfl | hc
  · exact .inr (.inl rfl)
  · exact allBlank_margin depth c hc

private theorem writtenItems_indented (depth : Nat) (item : Json) (items : List Json)
    (h : ∀ other ∈ item :: items, Written other (indentedAt (depth + 1) other).toList) :
    ∃ tail, WrittenItems items tail ∧
      (indentedItems (depth + 1) (item :: items)).toList ++
          ('\n' :: (margin depth).toList ++ [']']) =
        (margin (depth + 1)).toList ++ ((indentedAt (depth + 1) item).toList ++ tail) := by
  induction items generalizing item with
  | nil => exact ⟨_, .stop (allBlank_line depth), by simp [indentedItems]⟩
  | cons next rest ih =>
    obtain ⟨tail, htail, heq⟩ := ih next fun other ho => h other (List.mem_cons_of_mem item ho)
    have hnext := h next (List.mem_cons_of_mem item List.mem_cons_self)
    refine ⟨_, .next (allBlank_line (depth + 1)) hnext htail, ?_⟩
    rw [indentedItems, String.toList_append, List.append_assoc, heq]
    · simp
    · exact List.cons_ne_nil _ _

private theorem writtenMembers_indented (depth : Nat) (key : String) (value : Json)
    (members : List (String × Json))
    (h : ∀ entry ∈ (key, value) :: members,
      Written entry.2 (indentedAt (depth + 1) entry.2).toList) :
    ∃ tail, WrittenMembers members tail ∧
      (indentedMembers (depth + 1) ((key, value) :: members)).toList ++
          ('\n' :: (margin depth).toList ++ ['}']) =
        (margin (depth + 1)).toList ++
          (nameText key ++ ([' '] ++ ((indentedAt (depth + 1) value).toList ++ tail))) := by
  induction members generalizing key value with
  | nil =>
    exact ⟨_, .stop (allBlank_line depth), by simp [indentedMembers, toList_quote, nameText]⟩
  | cons entry rest ih =>
    obtain ⟨nextKey, next⟩ := entry
    obtain ⟨tail, htail, heq⟩ := ih nextKey next
      fun entry he => h entry (List.mem_cons_of_mem _ he)
    have hnext := h (nextKey, next) (List.mem_cons_of_mem _ List.mem_cons_self)
    have hgap : AllBlank [' '] := fun c hc => .inl (List.mem_singleton.mp hc)
    refine ⟨_, .next (allBlank_line (depth + 1)) hgap hnext htail, ?_⟩
    rw [indentedMembers, String.toList_append, List.append_assoc, heq]
    · simp [toList_quote, nameText]
    · exact List.cons_ne_nil _ _

theorem written_indentedAt {json : Json} (h : json.Fits) (depth : Nat) :
    Written json (indentedAt depth json).toList := by
  induction h generalizing depth with
  | null => rw [indentedAt]; exact .null
  | bool b => rw [indentedAt]; exact written_bool b
  | int hlow hhigh => rw [indentedAt]; exact .int hlow hhigh
  | number x => rw [indentedAt]; exact .number x
  | text s => rw [indentedAt, toList_quote]; exact .text s
  | @array items h ih =>
    cases items with
    | nil => rw [indentedAt]; exact .emptyArray
    | cons item items =>
      obtain ⟨tail, htail, heq⟩ := writtenItems_indented depth item items
        fun other ho => ih other ho (depth + 1)
      have hlist : (indentedAt depth (.array (item :: items))).toList =
          '[' :: (('\n' :: (margin (depth + 1)).toList) ++
            ((indentedAt (depth + 1) item).toList ++ tail)) := by
        rw [List.cons_append, ← heq, indentedAt]
        · simp
        · exact List.cons_ne_nil _ _
      rw [hlist]
      exact .array (allBlank_line _) (ih item List.mem_cons_self (depth + 1)) htail
  | @object members h ih =>
    cases members with
    | nil => rw [indentedAt]; exact .emptyObject
    | cons entry members =>
      obtain ⟨key, value⟩ := entry
      obtain ⟨tail, htail, heq⟩ := writtenMembers_indented depth key value members
        fun entry he => ih entry he (depth + 1)
      have hlist : (indentedAt depth (.object ((key, value) :: members))).toList =
          '{' :: (('\n' :: (margin (depth + 1)).toList) ++
            (nameText key ++ ([' '] ++ ((indentedAt (depth + 1) value).toList ++ tail)))) := by
        rw [List.cons_append, ← heq, indentedAt]
        · simp
        · exact List.cons_ne_nil _ _
      have hgap : AllBlank [' '] := fun c hc => .inl (List.mem_singleton.mp hc)
      rw [hlist]
      exact .object (allBlank_line _) hgap (ih _ List.mem_cons_self (depth + 1)) htail

theorem written_indented {json : Json} (h : json.Fits) : Written json json.indented.toList :=
  written_indentedAt h 0

end Json

end Gamebook
