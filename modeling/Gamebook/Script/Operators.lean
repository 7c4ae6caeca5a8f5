import Gamebook.Decimal.Remainder
import Gamebook.Dice
import Gamebook.Script.Trouble

/-!
# Operators

What the signs of scripts do with items. Whole numbers never wrap: a result that 64 bits cannot hold
is a failure. A whole number beside a float counts as a float. Items of types that have nothing to
do with each other are unequal, and none is less than the other.

`Operators.binary?` and `Operators.unary?` give nothing where a sign means nothing for its operands.
-/

namespace Gamebook

namespace Script

namespace Operators

/-- The result of an operator, or why it has none. -/
abbrev Answer := Except Cause Item

/-! ## Numbers -/

private def shownOperation (name : String) (x : Int64) (sign : String) (y : Int64) : String :=
  name ++ ": " ++ toString x.toInt ++ " " ++ sign ++ " " ++ toString y.toInt

/-- The item of a whole number, or the failure of the operation that led to it. -/
def fitting (n : Int) (failure : String) : Answer :=
  match Dice.int64? n with
  | some k => .ok (.int k)
  | none => .error (.arithmetic failure)

/-- Moves the bits of a whole number to the left, or to the right for a negative distance. -/
def shiftLeft (x y : Int64) : Int64 :=
  let n := y.toInt
  if 0 ≤ n then (if n < 64 then x <<< y else 0)
  else if -n < 64 then x >>> (-y)
  else if x < 0 then -1 else 0

/-- Moves the bits of a whole number to the right, or to the left for a negative distance. -/
def shiftRight (x y : Int64) : Int64 :=
  let n := y.toInt
  if 0 ≤ n then (if n < 64 then x >>> y else if x < 0 then -1 else 0)
  else if -n < 64 then x <<< (-y)
  else 0

/-- A power of whole numbers. -/
def intPower (x y : Int64) : Answer :=
  let a := x.toInt
  let n := y.toInt
  let overflow := shownOperation "Exponential overflow" x "**" y
  if n < 0 then
    .error (.arithmetic (shownOperation "Integer raised to a negative power" x "**" y))
  else if a = 0 ∨ a = 1 then .ok (.int (if n = 0 then 1 else x))
  else if a = -1 then .ok (.int (if n % 2 = 0 then 1 else -1))
  else if 64 ≤ n then .error (.arithmetic overflow)
  else fitting (Int.pow a n.toNat) overflow

/-- What a sign does with two whole numbers. -/
def ints? (sign : String) (x y : Int64) : Option Answer :=
  let a := x.toInt
  let b := y.toInt
  match sign with
  | "+" => some (fitting (a + b) (shownOperation "Addition overflow" x "+" y))
  | "-" => some (fitting (a - b) (shownOperation "Subtraction overflow" x "-" y))
  | "*" => some (fitting (a * b) (shownOperation "Multiplication overflow" x "*" y))
  | "/" => some
    (if b = 0 then .error (.arithmetic (shownOperation "Division by zero" x "/" y))
     else fitting (a.tdiv b) (shownOperation "Division overflow" x "/" y))
  | "%" => some
    (if b = 0 then .error (.arithmetic (shownOperation "Modulo division by zero" x "%" y))
     else if x == Int64.minValue && b = -1 then
       .error (.arithmetic (shownOperation "Modulo division overflow" x "%" y))
     else .ok (.int (Int64.ofInt (a.tmod b))))
  | "**" => some (intPower x y)
  | "<<" => some (.ok (.int (shiftLeft x y)))
  | ">>" => some (.ok (.int (shiftRight x y)))
  | "&" => some (.ok (.int (x &&& y)))
  | "|" => some (.ok (.int (x ||| y)))
  | "^" => some (.ok (.int (x ^^^ y)))
  | ".." => some (.ok (.range x y false))
  | "..=" => some (.ok (.range x y true))
  | _ => none

/-- What a sign does with two floats. -/
def floats? (sign : String) (x y : Float) : Option Answer :=
  match sign with
  | "+" => some (.ok (.float (x + y)))
  | "-" => some (.ok (.float (x - y)))
  | "*" => some (.ok (.float (x * y)))
  | "/" => some (.ok (.float (x / y)))
  | "%" => some (.ok (.float (floatRemainder x y)))
  | "**" => some (.ok (.float (Float.pow x y)))
  | _ => none

/-- The number of an item as a float. -/
def asFloat? : Item → Option Float
  | .int n => some (Float.ofInt n.toInt)
  | .float x => some x
  | _ => none

/-- The numbers of two items as floats, unless both are whole. -/
def floatPair? (a b : Item) : Option (Float × Float) :=
  match a, b with
  | .int _, .int _ => none
  | a, b => do some (← asFloat? a, ← asFloat? b)

/-! ## Comparisons -/

/-- The difference of two floats, divided by the greater of their magnitudes unless their product is
zero. -/
def difference (x y : Float) : Float :=
  let magnitude := if x.abs < y.abs then y.abs else x.abs
  (x - y) / (if x * y == 0 then 1 else magnitude)

/-- Floats that differ no more than this are equal: the step from 1 to the next float. -/
def tolerance : Float := 2.220446049250313e-16

/-- Compares floats. Those that are almost equal are equal, and nothing but `false` is said of what
has no difference: of what is no number, and of the infinite. -/
def compareFloats? (sign : String) (x y : Float) : Option Bool :=
  match sign with
  | "==" => some ((difference x y).abs ≤ tolerance)
  | "!=" => some (tolerance < (difference x y).abs)
  | "<" => some (tolerance < difference y x)
  | "<=" => some (-tolerance < difference y x)
  | ">" => some (tolerance < difference x y)
  | ">=" => some (-tolerance < difference x y)
  | _ => none

/-- A comparison sign, from whether the left side is less or equal. -/
def decided? (sign : String) (less equal greater : Bool) : Option Bool :=
  match sign with
  | "==" => some equal
  | "!=" => some !equal
  | "<" => some less
  | "<=" => some (less || equal)
  | ">" => some greater
  | ">=" => some (greater || equal)
  | _ => none

/-- The text that an item is compared as. -/
def asText? : Item → Option String
  | .text s => some s
  | .char c => some (String.singleton c)
  | _ => none

/-- Compares items of simple types, and items of types that have nothing to do with each other. -/
def compareSimple? (sign : String) (a b : Item) : Option Bool :=
  match a, b with
  | .unit, .unit => decided? sign false true false |>.map (fun r => r && sign == "==")
  | .bool x, .bool y => decided? sign (!x && y) (x == y) (x && !y)
  | .int x, .int y => decided? sign (x < y) (x == y) (y < x)
  | a, b =>
    match floatPair? a b, asText? a, asText? b with
    | some (x, y), _, _ => compareFloats? sign x y
    | _, some s, some t => decided? sign (s < t) (s == t) (t < s)
    | _, _, _ => if a.sameType b then none else decided? sign false false false

mutual

/-- Equality of items, those inside lists and records included; nothing for items that cannot be
compared. -/
def equal? : Item → Item → Option Bool
  | .array as, .array bs => equalItems? as bs
  | .record fs, .record gs => if fs.length = gs.length then equalFields? fs gs else some false
  | .range a b c, .range d e f => some (a == d && b == e && c == f)
  | a, b => compareSimple? "==" a b

/-- Equality of lists of items. -/
def equalItems? : List Item → List Item → Option Bool
  | [], [] => some true
  | a :: as, b :: bs =>
    match as.length == bs.length, equal? a b with
    | false, _ => some false
    | true, some true => equalItems? as bs
    | true, other => other
  | _, _ => some false

/-- Equality of fields. -/
def equalFields? : List (String × Item) → List (String × Item) → Option Bool
  | [], [] => some true
  | (k, a) :: as, (l, b) :: bs =>
    if k = l then
      match equal? a b with
      | some true => equalFields? as bs
      | other => other
    else some false
  | _, _ => some false

end

/-- What a comparison sign says. -/
def compare? (sign : String) (a b : Item) : Option Bool :=
  match sign, floatPair? a b with
  | "==", _ => equal? a b
  | "!=", none => (equal? a b).map (!·)
  | sign, _ => compareSimple? sign a b

/-! ## Texts, lists and records -/

/-- A text without any occurrence of another, in one pass from the left. -/
def without (piece : List Char) : Nat → List Char → List Char
  | 0, cs => cs
  | _ + 1, [] => []
  | fuel + 1, c :: rest =>
    if !piece.isEmpty && piece.isPrefixOf (c :: rest) then
      without piece fuel ((c :: rest).drop piece.length)
    else c :: without piece fuel rest

/-- A text without any occurrence of another. -/
def withoutText (s piece : String) : String :=
  String.ofList (without piece.toList (s.length + 1) s.toList)

/-- A record with the fields of another one written over its own. -/
def merged (a b : Fields Item) : Fields Item :=
  b.foldl (fun acc entry => Fields.insert entry.1 entry.2 acc) a

/-- What the plus sign joins. -/
def joined? : Item → Item → Option Item
  | .text s, b => some (.text (s ++ b.toText))
  | a, .text t => some (.text (a.toText ++ t))
  | .char c, .char d => some (.text (String.ofList [c, d]))
  | .array as, .array bs => some (.array (as ++ bs))
  | .record fs, .record gs => some (.record (merged fs gs))
  | _, _ => none

/-- The ranges that lack an end. -/
def openRange? (sign : String) (a b : Item) : Option Item :=
  let ends : Option (Int64 × Int64) := match a, b with
    | .int x, .unit => some (x, Int64.maxValue)
    | .unit, .int y => some (0, y)
    | .unit, .unit => some (0, Int64.maxValue)
    | _, _ => none
  match sign, ends with
  | "..", some (x, y) => some (.range x y false)
  | "..=", some (x, y) => some (.range x y true)
  | _, _ => none

/-- What a sign does with two items. -/
def binary? (sign : String) (a b : Item) : Option Answer :=
  match compare? sign a b with
  | some r => some (.ok (.bool r))
  | none =>
    match a, b with
    | .int x, .int y => ints? sign x y
    | .bool x, .bool y =>
      match sign with
      | "&" => some (.ok (.bool (x && y)))
      | "|" => some (.ok (.bool (x || y)))
      | "^" => some (.ok (.bool (x != y)))
      | _ => none
    | a, b =>
      match floatPair? a b, sign with
      | some (x, y), _ => floats? sign x y
      | none, "+" => (joined? a b).map .ok
      | none, "-" =>
        match a, asText? b with
        | .text s, some t => some (.ok (.text (withoutText s t)))
        | _, _ => none
      | none, _ => (openRange? sign a b).map .ok

/-- What a sign does with one item. -/
def unary? (sign : String) (a : Item) : Option Answer :=
  match sign, a with
  | "-", .int n => some (fitting (-n.toInt) ("Negation overflow: -" ++ toString n.toInt))
  | "-", .float x => some (.ok (.float (-x)))
  | "+", .int n => some (.ok (.int n))
  | "+", .float x => some (.ok (.float x))
  | "!", .bool b => some (.ok (.bool !b))
  | _, _ => none

/-- What an assignment through a sign makes of a variable, where it differs from the sign alone:
lists take up items, texts anything. -/
def grown? (sign : String) (a b : Item) : Option Item :=
  match sign, a with
  | "+", .array as =>
    match b with
    | .array bs => some (.array (as ++ bs))
    | b => some (.array (as ++ [b]))
  | _, _ => none

/-- How a complaint shows a function that is missing for some arguments. -/
def signature (name : String) (args : List Item) : String :=
  name ++ " (" ++ ", ".intercalate (args.map Item.argumentType) ++ ")"

end Operators

end Script

end Gamebook
