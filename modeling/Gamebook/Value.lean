import Gamebook.Decimal.Layout
import Gamebook.Fields

/-!
# Values

What scripts and their host exchange: nothing, truth values, 64-bit integers, floating-point
numbers, texts, lists, and records sorted by field name. Integers and numbers stay apart. The
coercions to truth (for guards) and to text (for templates) are total.
-/

namespace Gamebook

/-- A value that scripts and their host exchange. -/
inductive Value where
  | nil
  | bool (b : Bool)
  | int (n : Int64)
  | number (x : Float)
  | text (s : String)
  | list (items : List Value)
  | record (fields : List (String × Value))
  deriving Inhabited

/-- The text of a number: a whole number below `10^15` has no fraction and no sign of zero. -/
def numberText (x : Float) : String :=
  match Binary.ofFloat? x with
  | some b =>
    if b.isNearlyWhole && b.truncate < Nat.pow 10 15 then
      let whole : Int := if Binary.signOf x then -(b.truncate : Int) else b.truncate
      toString whole
    else Layout.plain.text x
  | none => Layout.plain.text x

namespace Value

mutual

/-- Equality of values; numbers compare as numbers, so what is not a number differs from itself. -/
def same : Value → Value → Bool
  | nil, nil => true
  | bool a, bool b => a == b
  | int a, int b => a == b
  | number a, number b => a == b
  | text a, text b => a == b
  | list a, list b => sameItems a b
  | record a, record b => sameFields a b
  | _, _ => false

/-- Equality of lists of values. -/
def sameItems : List Value → List Value → Bool
  | [], [] => true
  | a :: as, b :: bs => same a b && sameItems as bs
  | _, _ => false

/-- Equality of fields of records. -/
def sameFields : List (String × Value) → List (String × Value) → Bool
  | [], [] => true
  | (k, a) :: as, (l, b) :: bs => k == l && same a b && sameFields as bs
  | _, _ => false

end

instance : BEq Value := ⟨same⟩

/-- The name of a value's kind. -/
def kindName : Value → String
  | nil => "nil"
  | bool _ => "boolean"
  | int _ => "integer"
  | number _ => "number"
  | text _ => "string"
  | list _ => "list"
  | record _ => "map"

/-- The value is `nil`. -/
def isNil : Value → Bool
  | nil => true
  | _ => false

/-- The numeric value of an integer or a number. -/
def asNumber? : Value → Option Float
  | int n => some (Float.ofInt n.toInt)
  | number x => some x
  | _ => none

/-- The integer, if it is one. -/
def asInt? : Value → Option Int64
  | int n => some n
  | _ => none

/-- The text, if it is one. -/
def asText? : Value → Option String
  | text s => some s
  | _ => none

/-- The items of a list. -/
def asList? : Value → Option (List Value)
  | list items => some items
  | _ => none

/-- The fields of a record. -/
def asRecord? : Value → Option (Fields Value)
  | record fields => some fields
  | _ => none

/-- How guards read a value: nothing, false, zero, what is not a number, and the empty text are
false; all else is true, empty lists and records included. -/
def isTruthy : Value → Bool
  | nil => false
  | bool b => b
  | int n => n != 0
  | number x => x != 0 && !x.isNaN
  | text s => s != ""
  | list _ => true
  | record _ => true

mutual

/-- How templates write a value: nothing for `nil`, items and fields separated by commas. -/
def toText : Value → String
  | nil => ""
  | bool b => if b then "true" else "false"
  | int n => toString n.toInt
  | number x => numberText x
  | text s => s
  | list items => ", ".intercalate (itemTexts items)
  | record fields => ", ".intercalate (fieldTexts fields)

/-- The texts of the items of a list. -/
def itemTexts : List Value → List String
  | [] => []
  | v :: rest => toText v :: itemTexts rest

/-- The texts `name: value` of the fields of a record. -/
def fieldTexts : List (String × Value) → List String
  | [] => []
  | (key, v) :: rest => (key ++ ": " ++ toText v) :: fieldTexts rest

end

end Value

/-- Named values: variables, private variables of a section, a saved roster. -/
abbrev Variables := Fields Value

end Gamebook
