import Gamebook.Script.Trouble

/-!
# Replies of library functions

A library function gives an item, and may give its first argument another value. A function that
means nothing for the types of its arguments gives no reply at all.
-/

namespace Gamebook

namespace Script

namespace Library

/-- What a function gives, with the new value of its first argument if that changes. -/
structure Reply where
  value : Item
  first : Option Item := none

/-- The reply of a function, if it means anything for its arguments. -/
abbrev Answer := Option (Except Cause Reply)

/-- A function that gives an item. -/
def gives (item : Item) : Answer := some (.ok ⟨item, none⟩)

/-- A function that gives an item, or fails. -/
def givesOr (answer : Except Cause Item) : Answer := some (answer.map (fun item => ⟨item, none⟩))

/-- A function that changes its first argument. -/
def changes (first : Item) (value : Item := .unit) : Answer := some (.ok ⟨value, some first⟩)

/-- A function that fails. -/
def fails (cause : Cause) : Answer := some (.error cause)

/-- A number of items as a whole number. -/
def size (n : Nat) : Item := .int (Int64.ofNat n)

/-- The position that an index means in a list of some length: a negative one counts from the end,
and one outside is moved to the nearer end. -/
def position (length : Nat) (index : Int) : Nat :=
  if index < 0 then (length + index).toNat else min index.toNat length

/-- The position that an index means, if it lies in the list. -/
def position? (length : Nat) (index : Int) : Option Nat :=
  if index < 0 then (if -index ≤ length then some (length + index).toNat else none)
  else if index < length then some index.toNat
  else none

/-- A part of a list that starts at an index and has at most `count` items. -/
def slice {α : Type} (items : List α) (start count : Int) : List α :=
  (items.drop (position items.length start)).take count.toNat

end Library

end Script

end Gamebook
