import Gamebook.Proofs.Decimal.Nearest
import Gamebook.Script.Library

/-!
# Container helpers and whole numbers

The container helpers compare numbers as floats, so that `3` and `3.0` are the same item. Integers
of more than 53 bits have no float of their own: a list that holds one of them is found to contain,
and loses, another one. Which integers are taken for each other is said by `Binary.nearest`; below
`2^53` an integer is taken for itself only.

* `Library.GoBy` : the four helpers find, count and take out the items that pass a test.
* `Library.goBy_matches` : they do, for the test that compares items as values.
* `Library.helpers_int` : the test for an integer, down to the bits.
* `Library.helpers_confuse` : two integers that are taken for each other.
-/

namespace Gamebook

namespace Script

/-! ## What the helpers do -/

namespace Containers

theorem removeFirst_eq (item : Item) (items : List Item) :
    removeFirst item items =
      (items.any (·.matches item), items.eraseP (·.matches item)) := by
  induction items with
  | nil => rfl
  | cons i rest ih =>
    rw [removeFirst]
    by_cases h : i.matches item = true
    · simp [h]
    · simp [h, ih]

theorem removeAll_eq (item : Item) (items : List Item) :
    removeAll item items =
      (items.countP (·.matches item), items.filter (fun i => !i.matches item)) := by
  have hlength := items.length_eq_countP_add_countP (·.matches item)
  rw [removeAll]
  congr 1
  rw [← List.countP_eq_length_filter, hlength]
  simp

end Containers

namespace Library

/-- The container helpers find, count and take out the items of a list that pass a test. -/
structure GoBy (test : Item → Bool) (item : Item) : Prop where
  contains : ∀ items,
    function true "contains" [.array items, item] = gives (.bool (items.any test))
  count : ∀ items, function true "count" [.array items, item] = gives (size (items.countP test))
  remove : ∀ items,
    function true "remove" [.array items, item] =
      changes (.array (items.eraseP test)) (.bool (items.any test))
  removeAll : ∀ items,
    function true "remove_all" [.array items, item] =
      changes (.array (items.filter fun i => !test i)) (size (items.countP test))

/-- The container helpers go by the values of items. -/
theorem goBy_matches (item : Item) : GoBy (·.matches item) item where
  contains _ := rfl
  count _ := rfl
  remove items := by
    change changes (.array (Containers.removeFirst item items).2)
      (.bool (Containers.removeFirst item items).1) = _
    rw [Containers.removeFirst_eq]
  removeAll items := by
    change changes (.array (Containers.removeAll item items).2)
      (size (Containers.removeAll item items).1) = _
    rw [Containers.removeAll_eq]

end Library

/-! ## Items that are taken for an integer -/

namespace Item

/-- An item that the container helpers take for a whole number: an integer with the same nearest
float, or that float. -/
def isTakenFor (n : Int64) : Item → Bool
  | .int i => Binary.nearest i.toInt == Binary.nearest n.toInt
  | .float x => x == Float.ofInt n.toInt
  | _ => false

theorem natAbs_toInt_lt (n : Int64) : n.toInt.natAbs < 2 ^ 64 := by
  have hlow := n.le_toInt
  have hhigh := n.toInt_lt
  omega

/-- An item matches an integer if it is taken for it. -/
theorem matches_int (n : Int64) (item : Item) : item.matches (.int n) = item.isTakenFor n := by
  cases item with
  | int i =>
    change (Float.ofInt i.toInt == Float.ofInt n.toInt) = _
    rw [Bool.eq_iff_iff, Binary.ofInt_beq_iff (natAbs_toInt_lt i) (natAbs_toInt_lt n)]
    exact (beq_iff_eq (a := Binary.nearest i.toInt)).symm
  | array items =>
    -- A list has a value only if its items have, but no number anyway.
    simp only [Item.matches, toValue]
    cases toValues items <;> rfl
  | record fields =>
    simp only [Item.matches, toValue]
    cases toFields fields <;> rfl
  | _ => rfl

/-- Below `2^53` an integer is taken for itself only. -/
theorem isTakenFor_int_iff {n : Int64} (h : n.toInt.natAbs < 2 ^ 53) (i : Int64) :
    (Item.int i).isTakenFor n = true ↔ i = n := by
  rw [isTakenFor, beq_iff_eq, Binary.nearest_eq_iff_of_lt h, Int64.toInt_inj]

end Item

namespace Library

/-- The container helpers go by the items that are taken for an integer. -/
theorem goBy_isTakenFor (n : Int64) : GoBy (Item.isTakenFor n) (.int n) := by
  have hsame : (fun item : Item => item.matches (.int n)) = Item.isTakenFor n :=
    funext (Item.matches_int n)
  exact hsame ▸ goBy_matches (.int n)

/-- The container helpers find, count and take out an integer and those that share its nearest
float, and below `2^53` no other integer. -/
theorem helpers_int (n : Int64) :
    GoBy (Item.isTakenFor n) (.int n) ∧
      (n.toInt.natAbs < 2 ^ 53 → ∀ i : Int64, (Item.int i).isTakenFor n = true ↔ i = n) :=
  ⟨goBy_isTakenFor n, fun h i => Item.isTakenFor_int_iff h i⟩

/-- The greatest integer below `2^53` is taken for itself only. -/
theorem helpers_int_small :
    (9007199254740991 : Int64).toInt.natAbs < 2 ^ 53 ∧
      ∀ i : Int64, (Item.int i).isTakenFor 9007199254740991 = true ↔ i = 9007199254740991 :=
  ⟨by decide, (helpers_int 9007199254740991).2 (by decide)⟩

/-- A list that holds `2^53 + 1` only is found to contain `2^53`, and loses the other integer. -/
theorem helpers_confuse :
    let held : Int64 := 9007199254740993
    let asked : Int64 := 9007199254740992
    held ≠ asked ∧
      function true "contains" [.array [.int held], .int asked] = gives (.bool true) ∧
      function true "count" [.array [.int held], .int asked] = gives (size 1) ∧
      function true "remove" [.array [.int held], .int asked] = changes (.array []) (.bool true) ∧
      function true "remove_all" [.array [.int held], .int asked] =
        changes (.array []) (size 1) := by
  intro held asked
  have htaken : (Item.int held).isTakenFor asked = true := by decide
  have hgo := goBy_isTakenFor asked
  refine ⟨by decide, ?_, ?_, ?_, ?_⟩
  · rw [hgo.contains, List.any_cons, htaken, Bool.true_or]
  · rw [hgo.count, List.countP_cons_of_pos htaken, List.countP_nil]
  · rw [hgo.remove, List.eraseP_cons_of_pos htaken, List.any_cons, htaken, Bool.true_or]
  · rw [hgo.removeAll, List.countP_cons_of_pos htaken, List.countP_nil,
      List.filter_cons_of_neg (by simp [htaken]), List.filter_nil]

end Library

end Script

end Gamebook
