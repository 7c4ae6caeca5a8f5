/-!
# Named entries

Lists of named entries, read as finite maps: the first entry of a name counts. `insert` keeps a
list that is sorted by name sorted and free of repetitions; `put` keeps the order of first writing.
Names are ordered by code points, which is also the order of their UTF-8 bytes.
-/

namespace Gamebook

/-- A finite map from names, written as a list of its entries. -/
abbrev Fields (α : Type) := List (String × α)

namespace Fields

variable {α : Type}

/-- The value of the first entry with this name. -/
def find? (name : String) : Fields α → Option α
  | [] => none
  | (key, value) :: rest => if key = name then some value else find? name rest

/-- There is an entry with this name. -/
def has (name : String) (entries : Fields α) : Bool := (find? name entries).isSome

/-- Writes an entry into a list sorted by name. -/
def insert (name : String) (value : α) : Fields α → Fields α
  | [] => [(name, value)]
  | (key, old) :: rest =>
    if key = name then (name, value) :: rest
    else if name < key then (name, value) :: (key, old) :: rest
    else (key, old) :: insert name value rest

/-- Writes an entry in its old place, or at the end. -/
def put (name : String) (value : α) : Fields α → Fields α
  | [] => [(name, value)]
  | (key, old) :: rest =>
    if key = name then (name, value) :: rest else (key, old) :: put name value rest

/-- Changes the values of the entries with this name. -/
def modify (name : String) (f : α → α) (entries : Fields α) : Fields α :=
  entries.map (fun entry => if entry.1 = name then (entry.1, f entry.2) else entry)

/-- Removes the entry with this name. -/
def erase (name : String) (entries : Fields α) : Fields α :=
  entries.filter (fun entry => entry.1 ≠ name)

/-- Sorted by name, of several entries with one name the last. -/
def sorted (entries : Fields α) : Fields α :=
  entries.foldl (fun acc entry => insert entry.1 entry.2 acc) []

/-- The names, in order. -/
def names (entries : Fields α) : List String := entries.map Prod.fst

@[simp] theorem find?_nil (name : String) : find? name ([] : Fields α) = none := rfl

theorem find?_cons (name key : String) (value : α) (rest : Fields α) :
    find? name ((key, value) :: rest) = if key = name then some value else find? name rest := rfl

/-- A written entry reads back, and the others keep their value. -/
theorem find?_insert (name other : String) (value : α) (entries : Fields α) :
    find? other (insert name value entries) =
      if name = other then some value else find? other entries := by
  induction entries with
  | nil => rfl
  | cons entry rest ih =>
    obtain ⟨key, old⟩ := entry
    simp only [insert]
    split
    · subst key
      simp only [find?]
      split <;> rfl
    · split
      · rfl
      · rename_i different _
        simp only [find?, ih]
        by_cases hk : key = other
        · subst hk
          simp [Ne.symm different]
        · simp [hk]

/-- A written entry reads back, and the others keep their value. -/
theorem find?_put (name other : String) (value : α) (entries : Fields α) :
    find? other (put name value entries) =
      if name = other then some value else find? other entries := by
  induction entries with
  | nil => rfl
  | cons entry rest ih =>
    obtain ⟨key, old⟩ := entry
    simp only [put]
    split
    · subst key
      simp only [find?]
      split <;> rfl
    · rename_i different
      simp only [find?, ih]
      by_cases hk : key = other
      · subst hk
        simp [Ne.symm different]
      · simp [hk]

end Fields

end Gamebook
