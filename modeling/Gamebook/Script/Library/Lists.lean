import Gamebook.Script.Library.Texts

/-!
# Functions on lists

Positions count from zero; negative ones count from the end.
-/

namespace Gamebook

namespace Script

namespace Library

/-- Looks for an item by the equality of scripts. -/
def indexOfItem (item : Item) : Nat → List Item → Option Nat
  | _, [] => none
  | n, i :: rest =>
    if Operators.equal? i item == some true then some n else indexOfItem item (n + 1) rest

/-- An item comes before another one of its type, or is the same; floats that are almost equal are
kept apart. -/
def comesBefore (a b : Item) : Bool :=
  match Operators.floatPair? a b with
  | some (x, y) => !(y < x)
  | none => (Operators.compareSimple? "<=" a b).getD true

/-- The list without items that are equal to their predecessor. -/
def deduplicated : List Item → List Item
  | [] => []
  | [i] => [i]
  | i :: j :: rest =>
    if Operators.equal? i j == some true then deduplicated (i :: rest)
    else i :: deduplicated (j :: rest)

/-- Functions on a list alone. -/
def onList (name : String) (items : List Item) : Answer :=
  match name with
  | "len" => gives (size items.length)
  | "is_empty" => gives (.bool items.isEmpty)
  | "clear" => changes (.array [])
  | "reverse" => changes (.array items.reverse)
  | "sort" => changes (.array (items.mergeSort comesBefore))
  | "dedup" => changes (.array (deduplicated items))
  | "pop" =>
    match items.getLast? with
    | none => gives .unit
    | some last => changes (.array items.dropLast) last
  | "shift" =>
    match items with
    | [] => gives .unit
    | first :: rest => changes (.array rest) first
  | _ => none

/-- Functions on a list and another item. -/
def onListAnd (name : String) (items : List Item) (b : Item) : Answer :=
  let length := items.length
  match name, b with
  | "push", b => changes (.array (items ++ [b]))
  | "append", .array more => changes (.array (items ++ more))
  | "contains", b => gives (.bool (indexOfItem b 0 items).isSome)
  | "index_of", b => gives (positionItem (indexOfItem b 0 items))
  | "get", .int i => gives (((position? length i.toInt).bind (items[·]?)).getD .unit)
  | "remove", .int i =>
    match position? length i.toInt with
    | some at_ => changes (.array (items.eraseIdx at_)) ((items[at_]?).getD .unit)
    | none => gives .unit
  | "truncate", .int n => changes (.array (items.take n.toInt.toNat))
  | "chop", .int n => changes (.array (items.drop (length - n.toInt.toNat)))
  | "extract", .int start => gives (.array (slice items start.toInt length))
  | "split", .int i =>
    let cut := position length i.toInt
    changes (.array (items.take cut)) (.array (items.drop cut))
  | _, _ => none

/-- Functions whose first argument is a list. -/
def lists (name : String) (args : List Item) : Answer :=
  match args with
  | [.array items] => onList name items
  | [.array items, b] => onListAnd name items b
  | [.array items, .int i, c] =>
    match name, c with
    | "insert", c =>
      let at_ := position items.length i.toInt
      changes (.array (items.take at_ ++ c :: items.drop at_))
    | "set", c =>
      match position? items.length i.toInt with
      | some at_ => changes (.array (items.set at_ c))
      | none => gives .unit
    | "pad", c => changes (.array (padded i.toInt [c] items))
    | "extract", .int count => gives (.array (slice items i.toInt count.toInt))
    | "index_of", _ => none
    | _, _ => none
  | [.array items, item, .int start] =>
    if name == "index_of" then
      let begins := position items.length start.toInt
      gives (positionItem (indexOfItem item begins (items.drop begins)))
    else none
  | _ => none

end Library

end Script

end Gamebook
