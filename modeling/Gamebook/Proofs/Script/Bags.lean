import Gamebook.Proofs.Script.Containers

/-!
# Lists as bags

The container helpers use a list as a bag, in which an item may be several times. How often it is
there is the number of items that match it, whatever they are: matching is no equality, and what
matches nothing, as a function or a number that is not a number, is not there at all.

* `Library.removing` : one removal takes out the first match, and nothing else.
* `Library.Drains`, `Library.drains_iff` : removing an item until there is none.
* `Library.helpers_asBag` : the laws of the five helpers.
-/

namespace Gamebook

namespace Script

namespace Library

variable {item : Item} {items : List Item}

theorem any_matches (item : Item) (items : List Item) :
    items.any (·.matches item) = decide (0 < items.countP (·.matches item)) := by
  rw [Bool.eq_iff_iff, List.any_eq_true, decide_eq_true_eq, List.countP_pos_iff]

theorem remove_eq (item : Item) (items : List Item) :
    function true "remove" [.array items, item] =
      changes (.array (items.eraseP (·.matches item)))
        (.bool (decide (0 < items.countP (·.matches item)))) := by
  rw [(goBy_matches item).remove, any_matches]

/-! ## One removal -/

/-- What matches nothing is not removed. -/
theorem remove_absent (h : items.countP (·.matches item) = 0) :
    function true "remove" [.array items, item] = changes (.array items) (.bool false) := by
  have hnone : items.eraseP (·.matches item) = items :=
    List.eraseP_of_forall_not (List.countP_eq_zero.mp h)
  rw [remove_eq, hnone, h]
  rfl

/-- The list is cut at the first item that matches; this one is removed, the rest stays. -/
structure Removing (item : Item) (items before : List Item) (found : Item) (after : List Item) :
    Prop where
  cut : items = before ++ found :: after
  found : found.matches item = true
  first : ∀ other ∈ before, other.matches item = false
  remove : function true "remove" [.array items, item] =
    changes (.array (before ++ after)) (.bool true)

theorem removing (h : 0 < items.countP (·.matches item)) :
    ∃ before found after, Removing item items before found after := by
  obtain ⟨i, hi, hmatches⟩ := List.countP_pos_iff.mp h
  obtain ⟨found, before, after, hfirst, hfound, hcut, herased⟩ :=
    List.exists_of_eraseP (p := (·.matches item)) hi hmatches
  refine ⟨before, found, after, hcut, hfound, fun other hother => ?_, ?_⟩
  · simpa using hfirst other hother
  · rw [remove_eq, herased, decide_eq_true h]

namespace Removing

variable {before after : List Item} {found : Item}

/-- A removal leaves one match fewer. -/
theorem countP_eq (h : Removing item items before found after) :
    items.countP (·.matches item) = (before ++ after).countP (·.matches item) + 1 := by
  rw [h.cut, List.countP_append, List.countP_cons, if_pos h.found, List.countP_append]
  omega

/-- It leaves alone what does not match. -/
theorem filter_eq (h : Removing item items before found after) :
    items.filter (fun i => !i.matches item) =
      (before ++ after).filter (fun i => !i.matches item) := by
  rw [h.cut, List.filter_append, List.filter_cons_of_neg (by simp [h.found]), List.filter_append]

end Removing

/-! ## Removing until there is none -/

/-- The item is removed until it is not found; it is found so many times. -/
inductive Drains (item : Item) : List Item → Nat → List Item → Prop where
  | done {items left : List Item}
    (h : function true "remove" [.array items, item] = changes (.array left) (.bool false)) :
    Drains item items 0 left
  | next {items left last : List Item} {n : Nat}
    (h : function true "remove" [.array items, item] = changes (.array left) (.bool true))
    (hrest : Drains item left n last) : Drains item items (n + 1) last

theorem changes_inj {first first' value value' : Item}
    (h : changes first value = changes first' value') : first = first' ∧ value = value' := by
  simpa [changes, and_comm] using h

/-- Removing an item until there is none takes out what all its matches are, one by one. -/
theorem drains_iff {n : Nat} {last : List Item} :
    Drains item items n last ↔
      n = items.countP (·.matches item) ∧ last = items.filter (fun i => !i.matches item) := by
  constructor
  · intro h
    induction h with
    | @done items left h =>
      have hzero : items.countP (·.matches item) = 0 := by
        have hvalue := (changes_inj ((remove_eq item items).symm.trans h)).2
        simpa using hvalue
      have hleft := (changes_inj ((remove_absent hzero).symm.trans h)).1
      obtain rfl : items = left := by simpa using hleft
      refine ⟨hzero.symm, (List.filter_eq_self.mpr fun i hi => ?_).symm⟩
      simpa using List.countP_eq_zero.mp hzero i hi
    | @next items left last n h _ ih =>
      have hpos : 0 < items.countP (·.matches item) := by
        have hvalue := (changes_inj ((remove_eq item items).symm.trans h)).2
        simpa using hvalue
      obtain ⟨before, found, after, hremoving⟩ := removing hpos
      have hleft := (changes_inj (hremoving.remove.symm.trans h)).1
      obtain rfl : before ++ after = left := by simpa using hleft
      rw [hremoving.countP_eq, hremoving.filter_eq, ← ih.1, ← ih.2]
      exact ⟨rfl, rfl⟩
  · rintro ⟨rfl, rfl⟩
    induction hn : items.countP (·.matches item) generalizing items with
    | zero =>
      have hall : items.filter (fun i => !i.matches item) = items :=
        List.filter_eq_self.mpr fun i hi => by simpa using List.countP_eq_zero.mp hn i hi
      rw [hall]
      exact .done (remove_absent hn)
    | succ n ih =>
      obtain ⟨before, found, after, hremoving⟩ : ∃ before found after,
          Removing item items before found after := removing (by omega)
      rw [hremoving.filter_eq]
      refine .next hremoving.remove (ih ?_)
      have hcount := hremoving.countP_eq
      omega

/-! ## The laws -/

/-- The five helpers on a list and an item. -/
structure AsBag (item : Item) (items : List Item) : Prop where
  count : function true "count" [.array items, item] =
    gives (size (items.countP (·.matches item)))
  contains : function true "contains" [.array items, item] =
    gives (.bool (decide (0 < items.countP (·.matches item))))
  /-- The first match is removed, and nothing else. -/
  remove : 0 < items.countP (·.matches item) →
    ∃ before found after, Removing item items before found after
  absent : items.countP (·.matches item) = 0 →
    function true "remove" [.array items, item] = changes (.array items) (.bool false)
  /-- All matches are removed, and nothing else. -/
  removeAll : function true "remove_all" [.array items, item] =
    changes (.array (items.filter fun i => !i.matches item))
      (size (items.countP (·.matches item)))
  insert : function true "insert" [.array items, item] = changes (.array (items ++ [item]))
  /-- Removing until there is none leaves what removing all leaves. -/
  drains : ∀ n last, Drains item items n last ↔
    n = items.countP (·.matches item) ∧ last = items.filter (fun i => !i.matches item)
  drained : function true "count" [.array (items.filter fun i => !i.matches item), item] =
      gives (size 0) ∧
    function true "contains" [.array (items.filter fun i => !i.matches item), item] =
      gives (.bool false)
  /-- Items with the same matches are removed alike: that one is a number, and which position it
  would be, is of no matter. -/
  positionless : ∀ other, (∀ i ∈ items, i.matches other = i.matches item) →
    function true "remove" [.array items, other] = function true "remove" [.array items, item]

theorem countP_drained (item : Item) (items : List Item) :
    (items.filter fun i => !i.matches item).countP (·.matches item) = 0 := by
  rw [List.countP_eq_zero]
  intro i hi
  simpa using (List.mem_filter.mp hi).2

theorem remove_congr {other : Item} (h : ∀ i ∈ items, i.matches other = i.matches item) :
    function true "remove" [.array items, other] = function true "remove" [.array items, item] := by
  have hcount : items.countP (·.matches other) = items.countP (·.matches item) :=
    List.countP_congr fun i hi => by rw [h i hi]
  have herased : items.eraseP (·.matches other) = items.eraseP (·.matches item) := by
    clear hcount
    induction items with
    | nil => rfl
    | cons i rest ih =>
      rw [List.eraseP_cons, List.eraseP_cons, h i List.mem_cons_self,
        ih fun j hj => h j (List.mem_cons_of_mem _ hj)]
  rw [remove_eq, remove_eq, hcount, herased]

/-- The container helpers use every list as a bag, whatever it holds and whatever is looked for. -/
theorem helpers_asBag (item : Item) (items : List Item) : AsBag item items where
  count := (goBy_matches item).count items
  contains := by rw [(goBy_matches item).contains, any_matches]
  remove := removing
  absent := remove_absent
  removeAll := (goBy_matches item).removeAll items
  insert := rfl
  drains _ _ := drains_iff
  drained := by
    rw [(goBy_matches item).count, (goBy_matches item).contains, any_matches, countP_drained]
    exact ⟨rfl, rfl⟩
  positionless _ h := remove_congr h

/-- The number one is looked for among the items; the item at that position stays. -/
example : function true "remove" [.array [.text "a", .text "b", .int 1, .int 1], .int 1] =
    changes (.array [.text "a", .text "b", .int 1]) (.bool true) := by
  rfl

end Library

end Script

end Gamebook
