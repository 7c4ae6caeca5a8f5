import Gamebook.Value

/-!
# JSON text

Trees of JSON data and their two written forms, compact and indented. Object members keep their
order. Numbers that are not finite have no JSON form and are written as `null`.

* `Json.ofValue` : the tree of a value.
* `Json.quote` : the string literal of a text.
* `Json.compact`, `Json.indented` : the written forms.
-/

namespace Gamebook

/-- A tree of JSON data. -/
inductive Json where
  | null
  | bool (b : Bool)
  | int (n : Int)
  | number (x : Float)
  | text (s : String)
  | array (items : List Json)
  | object (members : List (String × Json))
  deriving Inhabited

namespace Json

/-! ## String literals -/

/-- The lower-case digit of a number below 16. -/
def hexDigit (n : Nat) : Char := if n < 10 then Char.ofNat (48 + n) else Char.ofNat (87 + n)

/-- One character inside a string literal: quotes, backslashes and control characters are
escaped, all else stands for itself. -/
def escapeChar (c : Char) : List Char :=
  if c = '"' then ['\\', '"']
  else if c = '\\' then ['\\', '\\']
  else if c = '\n' then ['\\', 'n']
  else if c = '\r' then ['\\', 'r']
  else if c = '\t' then ['\\', 't']
  else if c = '\x08' then ['\\', 'b']
  else if c = '\x0c' then ['\\', 'f']
  else if c.toNat < 32 then ['\\', 'u', '0', '0', hexDigit (c.toNat / 16), hexDigit (c.toNat % 16)]
  else [c]

/-- The inside of a string literal. -/
def escape (chars : List Char) : List Char := chars.flatMap escapeChar

/-- The string literal of a text. -/
def quote (s : String) : String := String.ofList ('"' :: escape s.toList ++ ['"'])

/-- The text of a number; `null` if it is not finite. -/
def numberLiteral (x : Float) : String :=
  if x.isFinite then Layout.data.text x else "null"

/-! ## Trees -/

mutual

/-- The tree of a value. -/
def ofValue : Value → Json
  | .nil => null
  | .bool b => bool b
  | .int n => int n.toInt
  | .number x => number x
  | .text s => text s
  | .list items => array (ofItems items)
  | .record fields => object (ofFields fields)

/-- The trees of the items of a list. -/
def ofItems : List Value → List Json
  | [] => []
  | v :: rest => ofValue v :: ofItems rest

/-- The members for the fields of a record. -/
def ofFields : List (String × Value) → List (String × Json)
  | [] => []
  | (key, v) :: rest => (key, ofValue v) :: ofFields rest

end

/-! ## Written forms -/

mutual

/-- The written form without any blanks. -/
def compact : Json → String
  | null => "null"
  | bool b => if b then "true" else "false"
  | int n => toString n
  | number x => numberLiteral x
  | text s => quote s
  | array items => "[" ++ compactItems items ++ "]"
  | object members => "\x7b" ++ compactMembers members ++ "\x7d"

/-- Items separated by commas. -/
def compactItems : List Json → String
  | [] => ""
  | [item] => compact item
  | item :: rest => compact item ++ "," ++ compactItems rest

/-- Members separated by commas. -/
def compactMembers : List (String × Json) → String
  | [] => ""
  | [(key, value)] => quote key ++ ":" ++ compact value
  | (key, value) :: rest => quote key ++ ":" ++ compact value ++ "," ++ compactMembers rest

end

/-- The indentation at a depth, two blanks for each level. -/
def margin (depth : Nat) : String := String.ofList (List.replicate (2 * depth) ' ')

mutual

/-- The written form with one item or member a line, two blanks deeper at each level. -/
def indentedAt (depth : Nat) : Json → String
  | array [] => "[]"
  | array items => "[\n" ++ indentedItems (depth + 1) items ++ "\n" ++ margin depth ++ "]"
  | object [] => "\x7b\x7d"
  | object members =>
    "\x7b\n" ++ indentedMembers (depth + 1) members ++ "\n" ++ margin depth ++ "\x7d"
  | null => "null"
  | bool b => if b then "true" else "false"
  | int n => toString n
  | number x => numberLiteral x
  | text s => quote s

/-- Items on lines of their own. -/
def indentedItems (depth : Nat) : List Json → String
  | [] => ""
  | [item] => margin depth ++ indentedAt depth item
  | item :: rest => margin depth ++ indentedAt depth item ++ ",\n" ++ indentedItems depth rest

/-- Members on lines of their own. -/
def indentedMembers (depth : Nat) : List (String × Json) → String
  | [] => ""
  | [(key, value)] => margin depth ++ quote key ++ ": " ++ indentedAt depth value
  | (key, value) :: rest =>
    margin depth ++ quote key ++ ": " ++ indentedAt depth value ++ ",\n"
      ++ indentedMembers depth rest

end

/-- The written form with one item or member a line. -/
def indented (json : Json) : String := indentedAt 0 json

end Json

end Gamebook
