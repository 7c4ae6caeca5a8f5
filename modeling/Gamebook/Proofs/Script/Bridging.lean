import Gamebook.Proofs.Script.Storing

/-!
# Between host and script

Every value comes back from a script as it was, integers and numbers apart. An item has a value
unless a function or a range is somewhere inside it, and the value stands for the item with each of
its characters written as a text.

* `Item.Occurs`, `Item.isForeign` : what is inside an item, and what has no value by itself.
* `Item.hasForeign_of_error`, `Item.error_of_occurs` : an item has no value only if something
  foreign is in it, and then it has none.
* `Item.toValue_eq_ok_iff` : the value of an item.
* `bridge_faithful` : what is kept on the way to scripts and back, and on the way to the host.
-/

namespace Gamebook

namespace Script

namespace Item

variable {item inner : Item} {items : List Item} {fields : List (String × Item)} {type : String}

/-! ## Lists and records -/

theorem toValue_array_eq_ok {v : Value} : (array items).toValue = .ok v ↔
    ∃ values, toValues items = .ok values ∧ .list values = v := by
  rw [toValue]
  cases toValues items <;> simp

theorem toValue_array_eq_error :
    (array items).toValue = .error type ↔ toValues items = .error type := by
  rw [toValue]
  cases toValues items <;> simp

theorem toValue_record_eq_ok {v : Value} : (record fields).toValue = .ok v ↔
    ∃ values, toFields fields = .ok values ∧ .record values = v := by
  rw [toValue]
  cases toFields fields <;> simp

theorem toValue_record_eq_error :
    (record fields).toValue = .error type ↔ toFields fields = .error type := by
  rw [toValue]
  cases toFields fields <;> simp

theorem toValues_cons_eq_ok {values : List Value} : toValues (item :: items) = .ok values ↔
    ∃ v rest, item.toValue = .ok v ∧ toValues items = .ok rest ∧ v :: rest = values := by
  rw [toValues]
  cases item.toValue <;> cases toValues items <;> simp

/-- The first item without a value tells its type. -/
theorem toValues_cons_eq_error : toValues (item :: items) = .error type ↔
    item.toValue = .error type ∨ (∃ v, item.toValue = .ok v) ∧ toValues items = .error type := by
  rw [toValues]
  cases item.toValue <;> cases toValues items <;> simp

theorem toFields_cons_eq_ok {name : String} {values : List (String × Value)} :
    toFields ((name, item) :: fields) = .ok values ↔
      ∃ v rest, item.toValue = .ok v ∧ toFields fields = .ok rest ∧ (name, v) :: rest = values := by
  rw [toFields]
  cases item.toValue <;> cases toFields fields <;> simp

theorem toFields_cons_eq_error {name : String} :
    toFields ((name, item) :: fields) = .error type ↔
      item.toValue = .error type ∨
        (∃ v, item.toValue = .ok v) ∧ toFields fields = .error type := by
  rw [toFields]
  cases item.toValue <;> cases toFields fields <;> simp

/-! ## Foreign items -/

/-- The item is there, at some depth of lists and records. -/
inductive Occurs (inner : Item) : Item → Prop where
  | here : Occurs inner inner
  | item {item : Item} {items : List Item} (member : item ∈ items) (inside : Occurs inner item) :
    Occurs inner (.array items)
  | field {name : String} {item : Item} {fields : List (String × Item)}
    (member : (name, item) ∈ fields) (inside : Occurs inner item) : Occurs inner (.record fields)

/-- The item is of a type that only scripts know, whatever is inside it. -/
def isForeign : Item → Bool
  | .unit | .bool _ | .int _ | .float _ | .text _ | .char _ | .array _ | .record _ => false
  | .function _ | .range .. | .progression .. => true

/-- Something foreign of this type is in the item. -/
def HasForeign (type : String) (item : Item) : Prop :=
  ∃ inner, Occurs inner item ∧ inner.isForeign = true ∧ inner.foreignType = type

mutual

/-- An item without a value has something foreign in it, and its type is told. -/
theorem hasForeign_of_error : ∀ {item : Item} {type : String}, item.toValue = .error type →
    item.HasForeign type
  | .function name, _, h => ⟨.function name, .here, rfl, Except.error.inj h⟩
  | .range low high closed, _, h => ⟨.range low high closed, .here, rfl, Except.error.inj h⟩
  | .progression low high stride, _, h =>
    ⟨.progression low high stride, .here, rfl, Except.error.inj h⟩
  | .array _, _, h => by
    obtain ⟨item, hitem, inner, hinner, hforeign⟩ :=
      hasForeign_of_error_items (toValue_array_eq_error.mp h)
    exact ⟨inner, .item hitem hinner, hforeign⟩
  | .record _, _, h => by
    obtain ⟨field, hfield, inner, hinner, hforeign⟩ :=
      hasForeign_of_error_fields (toValue_record_eq_error.mp h)
    exact ⟨inner, .field hfield hinner, hforeign⟩

theorem hasForeign_of_error_items : ∀ {items : List Item} {type : String},
    toValues items = .error type → ∃ item ∈ items, item.HasForeign type
  | item :: rest, type, h => by
    obtain hitem | ⟨-, hrest⟩ := toValues_cons_eq_error.mp h
    · exact ⟨item, List.mem_cons_self, hasForeign_of_error hitem⟩
    · obtain ⟨other, hother, hforeign⟩ := hasForeign_of_error_items hrest
      exact ⟨other, List.mem_cons_of_mem _ hother, hforeign⟩

theorem hasForeign_of_error_fields : ∀ {fields : List (String × Item)} {type : String},
    toFields fields = .error type → ∃ field ∈ fields, field.2.HasForeign type
  | (name, item) :: rest, type, h => by
    obtain hitem | ⟨-, hrest⟩ := toFields_cons_eq_error.mp h
    · exact ⟨(name, item), List.mem_cons_self, hasForeign_of_error hitem⟩
    · obtain ⟨other, hother, hforeign⟩ := hasForeign_of_error_fields hrest
      exact ⟨other, List.mem_cons_of_mem _ hother, hforeign⟩

end

/-- Items that have values together have them one by one. -/
theorem ok_of_toValues {values : List Value} (h : toValues items = .ok values)
    (hitem : item ∈ items) : ∃ v, item.toValue = .ok v := by
  induction items generalizing values with
  | nil => cases hitem
  | cons first rest ih =>
    obtain ⟨v, others, hfirst, hrest, -⟩ := toValues_cons_eq_ok.mp h
    rcases List.mem_cons.mp hitem with rfl | hmem
    · exact ⟨v, hfirst⟩
    · exact ih hrest hmem

theorem ok_of_toFields {values : List (String × Value)} {name : String}
    (h : toFields fields = .ok values) (hfield : (name, item) ∈ fields) :
    ∃ v, item.toValue = .ok v := by
  induction fields generalizing values with
  | nil => cases hfield
  | cons first rest ih =>
    obtain ⟨v, others, hfirst, hrest, -⟩ := toFields_cons_eq_ok.mp h
    rcases List.mem_cons.mp hfield with rfl | hmem
    · exact ⟨v, hfirst⟩
    · exact ih hrest hmem

/-- Everything inside an item that has a value has one. -/
theorem ok_of_occurs {v : Value} (h : Occurs inner item) (hok : item.toValue = .ok v) :
    ∃ w, inner.toValue = .ok w := by
  induction h generalizing v with
  | here => exact ⟨v, hok⟩
  | item member _ ih =>
    obtain ⟨values, hvalues, -⟩ := toValue_array_eq_ok.mp hok
    obtain ⟨w, hw⟩ := ok_of_toValues hvalues member
    exact ih hw
  | field member _ ih =>
    obtain ⟨values, hvalues, -⟩ := toValue_record_eq_ok.mp hok
    obtain ⟨w, hw⟩ := ok_of_toFields hvalues member
    exact ih hw

/-- A foreign item has no value. -/
theorem toValue_foreign (h : item.isForeign = true) : item.toValue = .error item.foreignType := by
  cases item with
  | function | range | progression => rfl
  | _ => cases h

theorem error_of_occurs (h : Occurs inner item) (hforeign : inner.isForeign = true) :
    ∃ type, item.toValue = .error type := by
  cases hvalue : item.toValue with
  | error type => exact ⟨type, rfl⟩
  | ok v =>
    obtain ⟨w, hw⟩ := ok_of_occurs h hvalue
    cases (toValue_foreign hforeign).symm.trans hw

/-! ## Characters -/

mutual

/-- The item with each character in it written as a text. -/
def withoutChars : Item → Item
  | .char c => .text (String.singleton c)
  | .array items => .array (itemsWithoutChars items)
  | .record fields => .record (fieldsWithoutChars fields)
  | item => item

/-- The items with each character in them written as a text. -/
def itemsWithoutChars : List Item → List Item
  | [] => []
  | item :: rest => withoutChars item :: itemsWithoutChars rest

/-- The fields with each character in them written as a text. -/
def fieldsWithoutChars : List (String × Item) → List (String × Item)
  | [] => []
  | (name, item) :: rest => (name, withoutChars item) :: fieldsWithoutChars rest

end

mutual

/-- Writing characters as texts changes no value, and nothing about what has none. -/
theorem toValue_withoutChars : ∀ item : Item, item.withoutChars.toValue = item.toValue
  | .char _ | .unit | .bool _ | .int _ | .float _ | .text _ | .function _ | .range .. |
    .progression .. => rfl
  | .array items => by rw [withoutChars, toValue, toValue, toValues_withoutChars items]
  | .record fields => by rw [withoutChars, toValue, toValue, toFields_withoutChars fields]

theorem toValues_withoutChars : ∀ items : List Item,
    toValues (itemsWithoutChars items) = toValues items
  | [] => rfl
  | item :: rest => by
    rw [itemsWithoutChars, toValues, toValues, toValue_withoutChars item,
      toValues_withoutChars rest]

theorem toFields_withoutChars : ∀ fields : List (String × Item),
    toFields (fieldsWithoutChars fields) = toFields fields
  | [] => rfl
  | (name, item) :: rest => by
    rw [fieldsWithoutChars, toFields, toFields, toValue_withoutChars item,
      toFields_withoutChars rest]

end

mutual

/-- The item of an item's value is the item itself, but for its characters. -/
theorem ofValue_of_toValue : ∀ {item : Item} {v : Value}, item.toValue = .ok v →
    ofValue v = item.withoutChars
  | .char _, _, h | .unit, _, h | .bool _, _, h | .int _, _, h | .float _, _, h |
    .text _, _, h => by
    cases h
    rfl
  | .function _, _, h | .range .., _, h | .progression .., _, h => by cases h
  | .array items, _, h => by
    obtain ⟨values, hvalues, rfl⟩ := toValue_array_eq_ok.mp h
    rw [ofValue, withoutChars, ofValues_of_toValues hvalues]
  | .record fields, _, h => by
    obtain ⟨values, hvalues, rfl⟩ := toValue_record_eq_ok.mp h
    rw [ofValue, withoutChars, ofFields_of_toFields hvalues]

theorem ofValues_of_toValues : ∀ {items : List Item} {values : List Value},
    toValues items = .ok values → ofValues values = itemsWithoutChars items
  | [], _, h => by
    cases h
    rfl
  | item :: rest, _, h => by
    obtain ⟨v, others, hitem, hrest, rfl⟩ := toValues_cons_eq_ok.mp h
    rw [ofValues, itemsWithoutChars, ofValue_of_toValue hitem, ofValues_of_toValues hrest]

theorem ofFields_of_toFields : ∀ {fields : List (String × Item)}
    {values : List (String × Value)},
    toFields fields = .ok values → ofFields values = fieldsWithoutChars fields
  | [], _, h => by
    cases h
    rfl
  | (name, item) :: rest, _, h => by
    obtain ⟨v, others, hitem, hrest, rfl⟩ := toFields_cons_eq_ok.mp h
    rw [ofFields, fieldsWithoutChars, ofValue_of_toValue hitem, ofFields_of_toFields hrest]

end

/-- The value of an item, if it has one, is that of the same item without characters. -/
theorem toValue_eq_ok_iff {v : Value} : item.toValue = .ok v ↔ ofValue v = item.withoutChars := by
  constructor
  · exact ofValue_of_toValue
  · intro h
    rw [← toValue_withoutChars, ← h, toValue_ofValue]

/-- Integers become integers, and nothing else does. -/
theorem ofValue_eq_int_iff {v : Value} {n : Int64} : ofValue v = .int n ↔ v = .int n := by
  cases v <;> simp [ofValue]

theorem ofValue_eq_float_iff {v : Value} {x : Float} : ofValue v = .float x ↔ v = .number x := by
  cases v <;> simp [ofValue]

end Item

/-! ## Across the border -/

namespace Interpreter

open Item (Occurs)

variable {item : Item}

/-- The fault names the type of something foreign in the item. -/
theorem hasForeign_of_valueOf {fault : Fault} (h : valueOf item = .error fault) :
    ∃ type, item.HasForeign type ∧ fault = unsupported type := by
  rw [valueOf] at h
  cases hvalue : item.toValue with
  | ok v =>
    rw [hvalue] at h
    cases h
  | error type =>
    rw [hvalue] at h
    cases h
    exact ⟨type, Item.hasForeign_of_error hvalue, rfl⟩

theorem valueOf_eq_ok_iff {v : Value} :
    valueOf item = .ok v ↔ Item.ofValue v = item.withoutChars := by
  rw [← Item.toValue_eq_ok_iff, valueOf]
  cases item.toValue <;> simp

/-- An item has no value exactly if something foreign is in it. -/
theorem valueOf_eq_error_iff : (∃ fault, valueOf item = .error fault) ↔
    ∃ inner, Occurs inner item ∧ inner.isForeign = true := by
  constructor
  · rintro ⟨fault, h⟩
    obtain ⟨type, ⟨inner, hinner, hforeign, -⟩, -⟩ := hasForeign_of_valueOf h
    exact ⟨inner, hinner, hforeign⟩
  · rintro ⟨inner, hinner, hforeign⟩
    obtain ⟨type, htype⟩ := Item.error_of_occurs hinner hforeign
    rw [valueOf, htype]
    exact ⟨_, rfl⟩

/-- A value comes back from a script as it was, and of all values only integers are integers there,
and only numbers are floats. An item has no value exactly if something foreign is in it; otherwise
its value stands for the item with each character written as a text. -/
theorem bridge_faithful :
    (∀ v : Value, valueOf (.ofValue v) = .ok v ∧
      (∀ n, Item.ofValue v = .int n ↔ v = .int n) ∧
      ∀ x, Item.ofValue v = .float x ↔ v = .number x) ∧
    ∀ item : Item,
      ((∃ fault, valueOf item = .error fault) ↔
        ∃ inner, Occurs inner item ∧ inner.isForeign = true) ∧
      ∀ v, valueOf item = .ok v ↔ Item.ofValue v = item.withoutChars :=
  ⟨fun v =>
      ⟨valueOf_ofValue v, fun _ => Item.ofValue_eq_int_iff, fun _ => Item.ofValue_eq_float_iff⟩,
    fun _ => ⟨valueOf_eq_error_iff, fun _ => valueOf_eq_ok_iff⟩⟩

end Interpreter

end Script

end Gamebook
