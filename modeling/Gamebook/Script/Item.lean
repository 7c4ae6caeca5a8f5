import Gamebook.Decimal.Layout
import Gamebook.Fields
import Gamebook.Text.Quoted

/-!
# Items

What script variables hold: values, characters, references to functions, and ranges of integers.
The texts of an item, alone and inside a list, and the names of its type are defined here.
-/

namespace Gamebook

namespace Script

/-- A script value. The fields of a record are sorted by name. -/
inductive Item where
  | unit
  | bool (b : Bool)
  | int (n : Int64)
  | float (x : Float)
  | char (c : Char)
  | text (s : String)
  | array (items : List Item)
  | record (fields : List (String × Item))
  /-- A function, by name. -/
  | function (name : String)
  /-- The integers from `low` up to `high`, which is left out unless the range is closed. -/
  | range (low high : Int64) (closed : Bool)
  /-- The integers from `low` towards `high`, every `stride` one. -/
  | progression (low high stride : Int64)
  deriving Inhabited

namespace Item

/-- What scripts call the type of an item. -/
def typeName : Item → String
  | unit => "()"
  | bool _ => "bool"
  | int _ => "i64"
  | float _ => "f64"
  | char _ => "char"
  | text _ => "string"
  | array _ => "array"
  | record _ => "map"
  | function _ => "Fn"
  | range _ _ closed => if closed then "range=" else "range"
  | progression .. => "range"

/-- What complaints about missing functions call the type of an argument. -/
def argumentType : Item → String
  | text _ => "&str | ImmutableString | String"
  | item => item.typeName

/-- What complaints at the border to the host call the type of an item. -/
def foreignType : Item → String
  | range _ _ closed =>
    if closed then "core::ops::range::RangeInclusive<i64>" else "core::ops::range::Range<i64>"
  | progression .. => "range"
  | item => item.typeName

/-- Two items have the same type. -/
def sameType (a b : Item) : Bool := a.typeName == b.typeName

/-- The text of a range. -/
def rangeText (low high : Int64) (closed : Bool) : String :=
  toString low.toInt ++ (if closed then "..=" else "..") ++ toString high.toInt

/-- A character between the single quotes of a list. -/
def charDetail (c : Char) : String :=
  if c = '"' then "\"" else if c.toNat = 39 then "\\'" else Text.quotedChar c

mutual

/-- The text of an item inside a list or a record. -/
def detail : Item → String
  | unit => "()"
  | bool b => if b then "true" else "false"
  | int n => toString n.toInt
  | float x => Layout.detail.text x
  | char c => "'" ++ charDetail c ++ "'"
  | text s => Text.quoted s
  | array items => "[" ++ ", ".intercalate (details items) ++ "]"
  | record fields => "#\x7b" ++ ", ".intercalate (fieldDetails fields) ++ "\x7d"
  | function name => "Fn(" ++ name ++ ")"
  | range low high closed => rangeText low high closed
  | progression low high stride =>
    "(" ++ toString low.toInt ++ ".." ++ toString high.toInt ++ ").step(" ++ toString stride.toInt
      ++ ")"

/-- The texts of the items of a list. -/
def details : List Item → List String
  | [] => []
  | item :: rest => detail item :: details rest

/-- The texts `"name": item` of the fields of a record. -/
def fieldDetails : List (String × Item) → List String
  | [] => []
  | (name, item) :: rest => (Text.quoted name ++ ": " ++ detail item) :: fieldDetails rest

end

/-- The text of an item by itself. -/
def toText : Item → String
  | unit => ""
  | float x => Layout.script.text x
  | char c => String.singleton c
  | text s => s
  | item => item.detail

mutual

/-- The same item, down to the bits of its numbers. -/
def identical : Item → Item → Bool
  | unit, unit => true
  | bool a, bool b => a == b
  | int a, int b => a == b
  | float a, float b => a.toBits == b.toBits
  | char a, char b => a == b
  | text a, text b => a == b
  | array a, array b => identicalItems a b
  | record a, record b => identicalFields a b
  | range a b c, range d e f => a == d && b == e && c == f
  | _, _ => false

/-- The same items in the same order. -/
def identicalItems : List Item → List Item → Bool
  | [], [] => true
  | a :: as, b :: bs => identical a b && identicalItems as bs
  | _, _ => false

/-- The same names with the same items. -/
def identicalFields : List (String × Item) → List (String × Item) → Bool
  | [], [] => true
  | (k, a) :: as, (l, b) :: bs => k == l && identical a b && identicalFields as bs
  | _, _ => false

end

end Item

end Script

end Gamebook
