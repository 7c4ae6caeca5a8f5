import Gamebook.Script.Bridge

/-!
# Container helpers

Looking up items in lists by value. Items match if they have equal values; numbers match if they are
equal as floats, so that `3` and `3.0` are the same item. What has no value matches nothing.

`contains`, `count`, `removeFirst` and `removeAll` all go by the same test, `Item.matches`.
-/

namespace Gamebook

namespace Script

/-- Two items count as the same. -/
def Item.matches (a b : Item) : Bool :=
  match a.toValue, b.toValue with
  | .ok v, .ok w =>
    match v.asNumber?, w.asNumber? with
    | some x, some y => x == y
    | _, _ => v == w
  | _, _ => false

namespace Containers

/-- Some item of the list is the same as the given one. -/
def contains (items : List Item) (item : Item) : Bool := items.any (fun i => i.matches item)

/-- How many items of the list are the same as the given one. -/
def count (items : List Item) (item : Item) : Nat := items.countP (fun i => i.matches item)

/-- The list with the item at its end. -/
def insert (items : List Item) (item : Item) : List Item := items ++ [item]

/-- The list without its first item that is the same as the given one, and whether there is one. -/
def removeFirst (item : Item) : List Item → Bool × List Item
  | [] => (false, [])
  | i :: rest =>
    if i.matches item then (true, rest)
    else
      let (found, left) := removeFirst item rest
      (found, i :: left)

/-- The list without the items that are the same as the given one, and their number. -/
def removeAll (item : Item) (items : List Item) : Nat × List Item :=
  let left := items.filter (fun i => !i.matches item)
  (items.length - left.length, left)

end Containers

end Script

end Gamebook
