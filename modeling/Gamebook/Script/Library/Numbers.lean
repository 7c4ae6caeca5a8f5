import Gamebook.Decimal.Read
import Gamebook.Script.Library.Reply
import Gamebook.Script.Operators
import Gamebook.Text.Blank

/-!
# Functions on numbers
-/

namespace Gamebook

namespace Script

namespace Library

open Operators (fitting)

/-- The whole part of a float, if 64 bits can hold it. -/
def wholePart? (x : Float) : Option Int64 := do
  let b ← Binary.ofFloat? x
  let magnitude : Int := b.truncate
  Dice.int64? (if Binary.signOf x then -magnitude else magnitude)

/-- The whole part of a float as an item. -/
def wholePart (x : Float) : Except Cause Item :=
  match wholePart? x with
  | some n => .ok (.int n)
  | none => .error (.arithmetic ("Integer overflow: to_int(" ++ Layout.script.text x ++ ")"))

/-- The float without its fraction. -/
def truncated (x : Float) : Float := if x < 0 then x.ceil else x.floor

/-- Functions on one whole number. -/
def onInt (name : String) (n : Int64) : Answer :=
  let k := n.toInt
  match name with
  | "abs" => givesOr (fitting k.natAbs ("Negation overflow: -" ++ toString k))
  | "sign" => gives (.int (if k < 0 then -1 else if k = 0 then 0 else 1))
  | "is_zero" => gives (.bool (k = 0))
  | "is_odd" => gives (.bool (k % 2 = 1))
  | "is_even" => gives (.bool (k % 2 = 0))
  | "to_float" => gives (.float (Float.ofInt k))
  | "to_int" => gives (.int n)
  | "is_nan" => none
  | _ => none

/-- Functions on one float. -/
def onFloat (name : String) (x : Float) : Answer :=
  match name with
  | "abs" => gives (.float x.abs)
  | "sign" =>
    if x.isNaN then fails (.arithmetic "Sign of NaN is undefined")
    else gives (.int (if x == 0 then 0 else if x < 0 then -1 else 1))
  | "is_zero" => gives (.bool (x == 0))
  | "is_nan" => gives (.bool x.isNaN)
  | "is_finite" => gives (.bool x.isFinite)
  | "is_infinite" => gives (.bool x.isInf)
  | "to_int" => givesOr (wholePart x)
  | "to_float" => gives (.float x)
  | "floor" => gives (.float x.floor)
  | "ceiling" => gives (.float x.ceil)
  | "round" => gives (.float x.round)
  | "int" => gives (.float (truncated x))
  | "fraction" => gives (.float (x - truncated x))
  | "sqrt" => gives (.float x.sqrt)
  | "exp" => gives (.float x.exp)
  | "ln" => gives (.float x.log)
  | "log" => gives (.float x.log10)
  | "sin" => gives (.float x.sin)
  | "cos" => gives (.float x.cos)
  | "tan" => gives (.float x.tan)
  | "asin" => gives (.float x.asin)
  | "acos" => gives (.float x.acos)
  | "atan" => gives (.float x.atan)
  | _ => none

/-- The smaller or the greater of two numbers. -/
def onNumbers (name : String) (a b : Item) : Answer :=
  match name, a, b, Operators.floatPair? a b with
  | "min", .int x, .int y, _ => gives (.int (if y < x then y else x))
  | "max", .int x, .int y, _ => gives (.int (if x < y then y else x))
  | "min", _, _, some (x, y) => gives (.float (if y < x then y else x))
  | "max", _, _, some (x, y) => gives (.float (if x < y then y else x))
  | _, _, _, _ => none

/-- Reads a whole number in a base. -/
def parseInt (base : Nat) (s : String) : Except Cause Item :=
  let fault (reason : String) : Except Cause Item :=
    .error (.arithmetic ("Error parsing integer number '" ++ s ++ "': " ++ reason))
  let cs := (Text.trim s).toList
  let (negative, digits) := match cs with
    | '-' :: rest => (true, rest)
    | '+' :: rest => (false, rest)
    | rest => (false, rest)
  match readNat? base digits with
  | none =>
    fault (if cs.isEmpty then "cannot parse integer from empty string"
      else "invalid digit found in string")
  | some n =>
    match Dice.int64? (if negative then -(n : Int) else n) with
    | some k => .ok (.int k)
    | none =>
      fault (if negative then "number too small to fit in target type"
        else "number too large to fit in target type")

/-- Reads a number with or without a fraction. -/
def parseFloat (s : String) : Except Cause Item :=
  match Decimal.readFloat? (Text.trim s).toList with
  | some x => .ok (.float x)
  | none =>
    .error (.arithmetic
      ("Error parsing floating-point number '" ++ s ++ "': invalid float literal"))

/-- Functions whose arguments are numbers, and those that read numbers. -/
def numbers (name : String) (args : List Item) : Answer :=
  match args with
  | [.int n] => onInt name n
  | [.float x] => onFloat name x
  | [.text s] =>
    match name with
    | "parse_int" => givesOr (parseInt 10 s)
    | "parse_float" => givesOr (parseFloat s)
    | _ => none
  | [.text s, .int base] =>
    if name == "parse_int" then
      if 2 ≤ base.toInt ∧ base.toInt ≤ 36 then givesOr (parseInt base.toInt.toNat s)
      else fails (.arithmetic ("Invalid radix: '" ++ toString base.toInt ++ "'"))
    else none
  | [a, b] =>
    match name, a, b with
    | "range", .int x, .int y => gives (.range x y false)
    | _, a, b => onNumbers name a b
  | [.int x, .int y, .int stride] =>
    if name == "range" then gives (.progression x y stride) else none
  | [] => if name == "PI" then gives (.float 3.141592653589793) else
      if name == "E" then gives (.float 2.718281828459045) else none
  | _ => none

end Library

end Script

end Gamebook
