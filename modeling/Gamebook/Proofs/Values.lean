import Gamebook.Proofs.Fields
import Gamebook.Proofs.Json.Decoding
import Gamebook.Stage

/-!
# Values as maps

The fields of a record stand for a map, so two values count as the same if they are equal once the
fields of every record are sorted by name. A namespace is compared up to the visit count that the
stage writes into it.

* `Value.canonical` : the value with every record sorted.
* `Value.SameButVisits` : two namespaces hold the same private variables.
* `Value.canonical_reread` : JSON text gives back a value whose numbers come back.
-/

namespace Gamebook

namespace Value

/-! ## Sorted records -/

mutual

/-- The value with the fields of every record sorted by name. -/
def canonical : Value → Value
  | .list items => .list (canonicalItems items)
  | .record fields => .record (Fields.sorted (canonicalFields fields))
  | v => v

/-- The items of a list with every record sorted. -/
def canonicalItems : List Value → List Value
  | [] => []
  | v :: rest => canonical v :: canonicalItems rest

/-- The fields of a record with every record inside them sorted. -/
def canonicalFields : List (String × Value) → List (String × Value)
  | [] => []
  | (name, v) :: rest => (name, canonical v) :: canonicalFields rest

end

theorem canonicalFields_eq_map (fields : List (String × Value)) :
    canonicalFields fields = fields.map (fun entry => (entry.1, entry.2.canonical)) := by
  induction fields with
  | nil => rfl
  | cons entry rest ih => rw [canonicalFields, ih, List.map_cons]

theorem canonicalFields_sorted (fields : Variables) :
    canonicalFields (Fields.sorted fields) = Fields.sorted (canonicalFields fields) := by
  rw [canonicalFields_eq_map, canonicalFields_eq_map, Fields.sorted_map]

theorem canonicalFields_insert (name : String) (v : Value) (fields : Variables) :
    canonicalFields (fields.insert name v) =
      Fields.insert name v.canonical (canonicalFields fields) := by
  rw [canonicalFields_eq_map, canonicalFields_eq_map, Fields.insert_map]

theorem names_canonicalFields (fields : Variables) :
    Fields.names (canonicalFields fields) = fields.names := by
  rw [canonicalFields_eq_map]
  exact Fields.names_mapped (fun _ => canonical) fields

/-! ## Namespaces -/

/-- The same private variables, the visit count aside. What is no record must be the same. -/
def SameButVisits (v w : Value) : Prop :=
  match v.canonical, w.canonical with
  | .record a, .record b =>
    ∀ name, name ≠ Stage.visitsName → Fields.find? name a = Fields.find? name b
  | v, w => v = w

theorem sameButVisits_of_canonical {v w : Value} (h : v.canonical = w.canonical) :
    v.SameButVisits w := by
  unfold SameButVisits
  rw [h]
  split
  · next a b ha hb =>
    rw [ha] at hb
    cases hb
    exact fun _ _ => rfl
  · rfl

theorem sameButVisits_records {a b : Variables} :
    (record a).SameButVisits (.record b) ↔ ∀ name, name ≠ Stage.visitsName →
      Fields.find? name (Fields.sorted (canonicalFields a)) =
        Fields.find? name (Fields.sorted (canonicalFields b)) := Iff.rfl

/-- A record is no other value. -/
theorem SameButVisits.isRecord {fields : Variables} {v : Value}
    (h : (record fields).SameButVisits v) : ∃ others, v = .record others := by
  cases v with
  | record others => exact ⟨others, rfl⟩
  | _ => cases h

/-- The visit count is not looked at. -/
theorem sameButVisits_noted (count : Value) (fields : Variables) (v : Value) :
    (record (fields.insert Stage.visitsName count)).SameButVisits v ↔
      (record fields).SameButVisits v := by
  have hnoted (name : String) (hne : name ≠ Stage.visitsName) :
      Fields.find? name
        (Fields.sorted (canonicalFields (fields.insert Stage.visitsName count))) =
      Fields.find? name (Fields.sorted (canonicalFields fields)) := by
    rw [canonicalFields_insert, Fields.find?_sorted_insert_of_ne hne]
  constructor
  · intro h
    obtain ⟨others, rfl⟩ := h.isRecord
    exact fun name hne => (hnoted name hne).symm.trans (h name hne)
  · intro h
    obtain ⟨others, rfl⟩ := h.isRecord
    exact fun name hne => (hnoted name hne).trans (h name hne)

/-- Variables are the same as none if they hold nothing but the visit count. -/
theorem sameButVisits_empty {fields : Variables} :
    (record (Fields.sorted fields)).SameButVisits (.record []) ↔
      ∀ name ∈ fields.names, name = Stage.visitsName := by
  rw [sameButVisits_records]
  have habsent (name : String) :
      Fields.find? name (Fields.sorted (canonicalFields (Fields.sorted fields))) =
        Fields.find? name (Fields.sorted (canonicalFields [])) ↔ name ∉ fields.names := by
    change _ = none ↔ _
    rw [canonicalFields_sorted, Fields.sorted_sorted, Fields.find?_eq_none_iff,
      Fields.mem_names_sorted, names_canonicalFields]
  simp only [habsent]
  refine forall_congr' fun name => ⟨fun h hmem => ?_, fun h hne hmem => hne (h hmem)⟩
  exact Decidable.byContradiction fun hne => h hne hmem

/-! ## Values that come back -/

mutual

/-- Every number in the value is finite, and JSON text gives it back. -/
def Returns : Value → Prop
  | .number x => x.isFinite ∧ (Json.rereadNumber x).getD x = x
  | .list items => ItemsReturn items
  | .record fields => FieldsReturn fields
  | _ => True

/-- Every number in the items comes back. -/
def ItemsReturn : List Value → Prop
  | [] => True
  | v :: rest => Returns v ∧ ItemsReturn rest

/-- Every number in the fields comes back. -/
def FieldsReturn : List (String × Value) → Prop
  | [] => True
  | (_, v) :: rest => Returns v ∧ FieldsReturn rest

end

mutual

/-- JSON text gives back a value whose numbers come back. -/
theorem canonical_reread : ∀ {v : Value}, v.Returns → v.reread.canonical = v.canonical
  | .nil, _ => rfl
  | .bool _, _ => rfl
  | .int _, _ => rfl
  | .text _, _ => rfl
  | .number x, h => by
    obtain ⟨hfinite, hback⟩ := h
    rw [reread, if_pos hfinite, hback]
  | .list items, h => by
    rw [reread, canonical, canonical, canonicalItems_reread h]
  | .record fields, h => by
    rw [reread, canonical, canonical, canonicalFields_sorted, Fields.sorted_sorted,
      canonicalFields_reread h]

theorem canonicalItems_reread : ∀ {items : List Value}, ItemsReturn items →
    canonicalItems (rereadItems items) = canonicalItems items
  | [], _ => rfl
  | v :: rest, h => by
    rw [rereadItems, canonicalItems, canonicalItems, canonical_reread h.1,
      canonicalItems_reread h.2]

theorem canonicalFields_reread : ∀ {fields : List (String × Value)}, FieldsReturn fields →
    canonicalFields (rereadFields fields) = canonicalFields fields
  | [], _ => rfl
  | (name, v) :: rest, h => by
    rw [rereadFields, canonicalFields, canonicalFields, canonical_reread h.1,
      canonicalFields_reread h.2]

end

mutual

/-- No number is in the value; integers may be. -/
def isNumberless : Value → Bool
  | .number _ => false
  | .list items => areNumberless items
  | .record fields => haveNumberless fields
  | _ => true

/-- No number is in the items. -/
def areNumberless : List Value → Bool
  | [] => true
  | v :: rest => isNumberless v && areNumberless rest

/-- No number is in the fields. -/
def haveNumberless : List (String × Value) → Bool
  | [] => true
  | (_, v) :: rest => isNumberless v && haveNumberless rest

end

mutual

/-- What holds no number comes back. -/
theorem returns_of_isNumberless : ∀ {v : Value}, v.isNumberless = true → v.Returns
  | .nil, _ => trivial
  | .bool _, _ => trivial
  | .int _, _ => trivial
  | .text _, _ => trivial
  | .number _, h => by cases h
  | .list _, h => itemsReturn_of_areNumberless h
  | .record _, h => fieldsReturn_of_haveNumberless h

theorem itemsReturn_of_areNumberless : ∀ {items : List Value}, areNumberless items = true →
    ItemsReturn items
  | [], _ => trivial
  | v :: rest, h => by
    rw [areNumberless, Bool.and_eq_true] at h
    exact ⟨returns_of_isNumberless h.1, itemsReturn_of_areNumberless h.2⟩

theorem fieldsReturn_of_haveNumberless : ∀ {fields : List (String × Value)},
    haveNumberless fields = true → FieldsReturn fields
  | [], _ => trivial
  | (_, v) :: rest, h => by
    rw [haveNumberless, Bool.and_eq_true] at h
    exact ⟨returns_of_isNumberless h.1, fieldsReturn_of_haveNumberless h.2⟩

end

theorem sameButVisits_reread {v : Value} (h : v.Returns) : v.reread.SameButVisits v :=
  sameButVisits_of_canonical (canonical_reread h)

end Value

end Gamebook
