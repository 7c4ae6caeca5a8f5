import Gamebook.Json.Reader

/-!
# Data trees

What a document text holds before it is read as a gamebook: scalars, lists, records whose keys may
be any data, and data with a tag. `Data.ofJson` gives the tree of a JSON text.
-/

namespace Gamebook

/-- A tree of data. Integers are those that fit 64 bits, signed or unsigned. `broken` stands where
reading the text stopped. -/
inductive Data where
  | null
  | bool (b : Bool)
  | int (n : Int)
  | number (x : Float)
  | text (s : String)
  | list (items : List Data)
  | record (entries : List (Data × Data))
  | tagged (tag : String) (inner : Data)
  | broken (reason : String)
  deriving Inhabited

namespace Data

mutual

/-- Sameness of keys: numbers compare as numbers, except that what is not a number is the same as
itself. -/
def same : Data → Data → Bool
  | null, null => true
  | bool a, bool b => a == b
  | int a, int b => a == b
  | number a, number b => a == b || (a.isNaN && b.isNaN)
  | text a, text b => a == b
  | list a, list b => sameItems a b
  | record a, record b => sameEntries a b
  | tagged s a, tagged t b => s == t && same a b
  | _, _ => false

/-- Sameness of lists. -/
def sameItems : List Data → List Data → Bool
  | [], [] => true
  | a :: as, b :: bs => same a b && sameItems as bs
  | _, _ => false

/-- Sameness of records with their entries in the same order. -/
def sameEntries : List (Data × Data) → List (Data × Data) → Bool
  | [], [] => true
  | (k, a) :: as, (l, b) :: bs => same k l && same a b && sameEntries as bs
  | _, _ => false

end

/-- The data without its tags. -/
def untagged : Data → Data
  | tagged _ inner => untagged inner
  | data => data

mutual

/-- The data of a JSON tree; a fault that stopped the reading comes last. -/
def ofJson : Json.Node → Data
  | .null _ => null
  | .bool b _ => bool b
  | .int n _ => int n
  | .number x _ => number x
  | .text s _ => text s
  | .array items cut _ =>
    list (ofJsonItems items ++ (cut.map (fun f => broken f.cause.message)).toList)
  | .object members cut _ =>
    record (ofJsonMembers members ++ (cut.map (fun f => (broken f.cause.message, null))).toList)
  | .broken fault => broken fault.cause.message

/-- The data of the items of a list. -/
def ofJsonItems : List Json.Node → List Data
  | [] => []
  | node :: rest => ofJson node :: ofJsonItems rest

/-- The entries for the members of an object. -/
def ofJsonMembers : List (String × Json.Mark × Json.Node) → List (Data × Data)
  | [] => []
  | (key, _, node) :: rest => (text key, ofJson node) :: ofJsonMembers rest

end

end Data

end Gamebook
