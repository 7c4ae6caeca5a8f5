import Gamebook.Proofs.Stores
import Gamebook.Script.Interpreter

/-!
# The interpreter stores variables

Every value has an item that is read as this value again, and a scope that is written reads back.
So the interpreter stores variables as `Engine.Stores` asks.

* `Script.Item.toValue_ofValue` : from host to script and back.
* `Script.engine_stores` : the interpreter stores variables.
-/

namespace Gamebook

namespace Script

namespace Item

mutual

/-- A value comes back from a script as it was. -/
theorem toValue_ofValue : ∀ v : Value, (ofValue v).toValue = .ok v
  | .nil => rfl
  | .bool _ => rfl
  | .int _ => rfl
  | .number _ => rfl
  | .text _ => rfl
  | .list items => by simp only [ofValue, toValue, toValues_ofValues items]
  | .record fields => by simp only [ofValue, toValue, toFields_ofFields fields]

theorem toValues_ofValues : ∀ items : List Value, toValues (ofValues items) = .ok items
  | [] => rfl
  | v :: rest => by simp only [ofValues, toValues, toValue_ofValue v, toValues_ofValues rest]

theorem toFields_ofFields : ∀ fields : List (String × Value),
    toFields (ofFields fields) = .ok fields
  | [] => rfl
  | (name, v) :: rest => by
    simp only [ofFields, toFields, toValue_ofValue v, toFields_ofFields rest]

end

end Item

namespace Scope

/-- What is put reads back, and no other variable changes. -/
theorem find?_put (name other : String) (value : Item) (scope : Scope) :
    (find? other (put name value scope)).map Binding.value =
      if name = other then some value else (find? other scope).map Binding.value := by
  unfold put
  split
  · next hsome =>
    rw [find?_write]
    split
    · next heq =>
      obtain ⟨b, hb⟩ := Option.isSome_iff_exists.mp hsome
      rw [← heq, hb]
      rfl
    · rfl
  · rw [declare, find?]
    split <;> rfl

end Scope

namespace Interpreter

theorem valueOf_ofValue (v : Value) : valueOf (.ofValue v) = .ok v := by
  rw [valueOf, Item.toValue_ofValue]

/-- Reading looks only at the value that a name is bound to. -/
theorem read_eq (name : String) (it : Interpreter) :
    it.read name = match (Scope.find? name it.scope).map Binding.value with
      | some item => valueOf item
      | none => .ok .nil := by
  rw [read]
  cases Scope.find? name it.scope <;> rfl

theorem write_ok {name : String} {value : Value} {it after : Interpreter}
    (h : it.write name value = (.ok (), after)) :
    after = { it with scope := Scope.put name (.ofValue value) it.scope } := by
  unfold write at h
  split at h
  · cases h
  · cases h
    rfl

theorem write_error {name : String} {value : Value} {it after : Interpreter} {fault : Fault}
    (h : it.write name value = (.error fault, after)) : after = it := by
  unfold write at h
  split at h
  · cases h
    rfl
  · cases h

end Interpreter

open Interpreter in
/-- The interpreter stores variables. -/
theorem engine_stores : engine.Stores where
  read_written {name value before after} h := by
    obtain rfl := write_ok h
    change Interpreter.read name _ = _
    rw [read_eq, Scope.find?_put, if_pos rfl]
    exact valueOf_ofValue value
  read_unwritten {name value before after fault} h other := by
    obtain rfl := write_error h
    rfl
  read_other {name other} hne value state := by
    change Interpreter.read other (Interpreter.write name value state).2 = _
    obtain ⟨result, after, h⟩ :
        ∃ result after, Interpreter.write name value state = (result, after) := ⟨_, _, rfl⟩
    rw [h]
    cases result with
    | ok u =>
      obtain rfl := write_ok h
      change _ = Interpreter.read other state
      rw [read_eq, read_eq, Scope.find?_put, if_neg (Ne.symm hne)]
    | error fault =>
      obtain rfl := write_error h
      rfl
  read_setDice _ _ _ := rfl
  dice?_setDice _ _ := rfl

end Script

end Gamebook
