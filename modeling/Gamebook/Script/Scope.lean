import Gamebook.Script.Item

/-!
# Scopes

The variables in view, newest first; of several bindings with one name the newest counts. What a
script may not take away from its host is the *shape* of a scope: the names with whether they are
constants, in order.

* `Scope.find?_write` : a written variable reads back, and no other changes.
* `Scope.shape_write`, `Scope.shape_rewind` : what keeps a shape, and what gives it back.
* `Scope.compact` : one binding for each name, the newest.
-/

namespace Gamebook

namespace Script

/-- A variable or constant with its value. -/
structure Binding where
  name : String
  constant : Bool
  value : Item

/-- The variables in view, newest first. -/
abbrev Scope := List Binding

/-- The names of a scope with whether they are constants, newest first. -/
abbrev Shape := List (String × Bool)

namespace Scope

/-- The names with whether they are constants. -/
def shape (scope : Scope) : Shape := scope.map (fun b => (b.name, b.constant))

/-- The newest binding of a name. -/
def find? (name : String) : Scope → Option Binding
  | [] => none
  | b :: older => if b.name = name then some b else find? name older

/-- Gives the newest binding of a name another value. -/
def write (name : String) (value : Item) : Scope → Scope
  | [] => []
  | b :: older =>
    if b.name = name then { b with value := value } :: older else b :: write name value older

/-- Brings a variable or constant into view. -/
def declare (name : String) (constant : Bool) (value : Item) (scope : Scope) : Scope :=
  ⟨name, constant, value⟩ :: scope

/-- Writes the newest binding of a name, or brings a variable into view. -/
def put (name : String) (value : Item) (scope : Scope) : Scope :=
  if (find? name scope).isSome then write name value scope else declare name false value scope

/-- The oldest `size` bindings. -/
def rewind (size : Nat) (scope : Scope) : Scope := scope.drop (scope.length - size)

/-- Keeps the newest binding of each name. `seen` holds the names that are newer. -/
def compactFrom (seen : List String) : Scope → Scope
  | [] => []
  | b :: older =>
    if seen.contains b.name then compactFrom seen older
    else b :: compactFrom (b.name :: seen) older

/-- Keeps the newest binding of each name. -/
def compact (scope : Scope) : Scope := compactFrom [] scope

@[simp] theorem shape_nil : shape [] = [] := rfl

@[simp] theorem shape_cons (b : Binding) (older : Scope) :
    shape (b :: older) = (b.name, b.constant) :: shape older := rfl

@[simp] theorem length_shape (scope : Scope) : (shape scope).length = scope.length := by
  simp [shape]

/-- Writing a variable keeps the shape. -/
@[simp] theorem shape_write (name : String) (value : Item) (scope : Scope) :
    shape (write name value scope) = shape scope := by
  induction scope with
  | nil => rfl
  | cons b older ih =>
    simp only [write]
    split
    · rfl
    · simp [ih]

/-- Dropping what is newer than a scope of some shape leaves that shape. -/
theorem shape_rewind {scope : Scope} {fresh base : Shape} (h : shape scope = fresh ++ base) :
    shape (rewind base.length scope) = base := by
  have hl : scope.length = fresh.length + base.length := by
    rw [← length_shape scope, h, List.length_append]
  unfold rewind shape at *
  rw [List.map_drop, h, hl, Nat.add_sub_cancel, List.drop_left]

/-- A written variable reads back, and no other changes. -/
theorem find?_write (name other : String) (value : Item) (scope : Scope) :
    find? other (write name value scope) =
      if name = other then (find? other scope).map (fun b => { b with value := value })
      else find? other scope := by
  induction scope with
  | nil => simp [write, find?]
  | cons b older ih =>
    simp only [write]
    by_cases hb : b.name = name
    · subst hb
      by_cases ho : b.name = other <;> simp [find?, ho]
    · by_cases ho : b.name = other
      · subst ho
        simp [find?, hb, Ne.symm hb]
      · simp [find?, hb, ho, ih]

end Scope

end Script

end Gamebook
