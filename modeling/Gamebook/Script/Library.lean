import Gamebook.Dice
import Gamebook.Script.Containers
import Gamebook.Script.Library.Lists
import Gamebook.Script.Library.Numbers
import Gamebook.Script.Library.Records

/-!
# The function library

The functions that scripts can call without defining them, and the story helpers on top of them:
dice and container helpers. The helpers come first where both mean something for the arguments.
-/

namespace Gamebook

namespace Script

namespace Library

/-- Functions that work on anything. -/
def general (name : String) (args : List Item) : Answer :=
  match name, args with
  | "to_string", [item] => gives (.text item.toText)
  | "to_debug", [item] => gives (.text item.detail)
  | "print", [] => gives .unit
  | "print", [_] => gives .unit
  | "debug", [] => gives .unit
  | "debug", [_] => gives .unit
  | "name", [.function f] => gives (.text f)
  | "contains", [.range low high closed, .int n] =>
    gives (.bool (low ≤ n && (n < high || (closed && n == high))))
  | "is_empty", [.range low high closed] =>
    gives (.bool (!(low < high || (closed && low == high))))
  | _, _ => none

/-- The functions that come with the language. -/
def standard (name : String) (args : List Item) : Answer :=
  (general name args).or <| (lists name args).or <| (records name args).or <|
    (texts name args).or (numbers name args)

/-- The container helpers. -/
def containers (name : String) (args : List Item) : Answer :=
  match name, args with
  | "contains", [.array items, item] => gives (.bool (Containers.contains items item))
  | "insert", [.array items, item] => changes (.array (Containers.insert items item))
  | "remove", [.array items, item] =>
    let (found, left) := Containers.removeFirst item items
    changes (.array left) (.bool found)
  | "remove_all", [.array items, item] =>
    let (n, left) := Containers.removeAll item items
    changes (.array left) (size n)
  | "count", [.array items, item] => gives (size (Containers.count items item))
  | _, _ => none

/-- The functions that leave the dice alone. -/
def function (helpers : Bool) (name : String) (args : List Item) : Answer :=
  if helpers then (containers name args).or (standard name args) else standard name args

/-- The dice helpers. -/
def dice? (helpers : Bool) (name : String) (args : List Item) :
    Option (UInt32 → Except Dice.Refusal Int64 × UInt32) :=
  if !helpers then none
  else match name, args with
    | "dice", [.int count, .int sides, .int modifier] => some (Dice.checked count sides modifier)
    | "dice", [.int count, .int sides] => some (Dice.checked count sides 0)
    | "d", [.int sides] => some (Dice.checked 1 sides 0)
    | "random", [.int bound] => some (Dice.random bound)
    | _, _ => none

/-- Functions that may change their first argument, and so refuse a constant. -/
def changesFirst (helpers : Bool) (name : String) (first : Item) : Bool :=
  match first with
  | .array _ =>
    ["push", "append", "insert", "remove", "clear", "truncate", "chop", "reverse", "pop", "shift",
      "sort", "dedup", "set", "pad", "split"].contains name ||
    (helpers && ["contains", "remove_all", "count"].contains name)
  | .record _ => ["remove", "clear", "mixin", "fill_with", "set"].contains name
  | .text _ =>
    ["trim", "make_upper", "make_lower", "clear", "pop", "remove", "append", "crop", "truncate",
      "pad", "set", "replace"].contains name
  | _ => false

/-- The properties that items other than records have, by their functions. -/
def property? (name : String) (item : Item) : Option Item :=
  let listed := match item with
    | .array _ => ["len", "is_empty"].contains name
    | .text _ => ["len", "bytes", "is_empty", "chars"].contains name
    | .int _ => ["is_zero", "is_odd", "is_even"].contains name
    | .float _ =>
      ["floor", "ceiling", "round", "int", "fraction", "is_nan", "is_finite", "is_infinite",
        "is_zero"].contains name
    | .function _ => name == "name"
    | _ => false
  if listed then
    match standard name [item] with
    | some (.ok reply) => some reply.value
    | _ => none
  else none

end Library

end Script

end Gamebook
