import Gamebook.Script.Item
import Gamebook.Value

/-!
# Between host and script

Values become items, and items become values where they can: a character becomes a text, and a
function or a range, at any depth, becomes nothing.
-/

namespace Gamebook

namespace Script

namespace Item

mutual

/-- The item of a value. -/
def ofValue : Value → Item
  | .nil => .unit
  | .bool b => .bool b
  | .int n => .int n
  | .number x => .float x
  | .text s => .text s
  | .list items => .array (ofValues items)
  | .record fields => .record (ofFields fields)

/-- The items of some values. -/
def ofValues : List Value → List Item
  | [] => []
  | v :: rest => ofValue v :: ofValues rest

/-- The fields of a record of values. -/
def ofFields : List (String × Value) → List (String × Item)
  | [] => []
  | (name, v) :: rest => (name, ofValue v) :: ofFields rest

end

mutual

/-- The value of an item, or the type of what has none. -/
def toValue : Item → Except String Value
  | .unit => .ok .nil
  | .bool b => .ok (.bool b)
  | .int n => .ok (.int n)
  | .float x => .ok (.number x)
  | .text s => .ok (.text s)
  | .char c => .ok (.text (String.singleton c))
  | .array items =>
    match toValues items with
    | .ok values => .ok (.list values)
    | .error type => .error type
  | .record fields =>
    match toFields fields with
    | .ok values => .ok (.record values)
    | .error type => .error type
  | item => .error item.foreignType

/-- The values of some items. -/
def toValues : List Item → Except String (List Value)
  | [] => .ok []
  | item :: rest =>
    match toValue item with
    | .error type => .error type
    | .ok v =>
      match toValues rest with
      | .ok values => .ok (v :: values)
      | .error type => .error type

/-- The values of the fields of a record. -/
def toFields : List (String × Item) → Except String (List (String × Value))
  | [] => .ok []
  | (name, item) :: rest =>
    match toValue item with
    | .error type => .error type
    | .ok v =>
      match toFields rest with
      | .ok values => .ok ((name, v) :: values)
      | .error type => .error type

end

end Item

end Script

end Gamebook
