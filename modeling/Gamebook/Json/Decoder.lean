import Gamebook.Json.Reader

/-!
# Decoding JSON records

What records in files are decoded with: texts, 32-bit words, lists, maps, and records with fixed
field names. Parts are decoded in the order of the text, so the first complaint is the one that is
raised. A record may also be written as the list of its fields in their order.
-/

namespace Gamebook

namespace Json

/-- What decoding a part of a text gives. -/
abbrev Decoded (α : Type) := Except Unreadable α

namespace Node

/-- A text. -/
def asText : Node → Decoded String
  | .text s _ => .ok s
  | node => .error (node.mismatch "a string")

/-- An unsigned 32-bit word. -/
def asWord : Node → Decoded UInt32
  | .int n span =>
    if 0 ≤ n ∧ n < 0x100000000 then .ok (UInt32.ofNat n.toNat)
    else .error (.mismatch ("invalid value: integer \x60" ++ toString n ++ "\x60, expected u32")
      span.stop)
  | node => .error (node.mismatch "u32")

/-- A word, or nothing where `null` stands. -/
def asWord? : Node → Decoded (Option UInt32)
  | .null _ => .ok none
  | node => node.asWord.map some

/-- Any value. -/
def asValue (node : Node) : Decoded Value := node.value.mapError .malformed

/-- The end of a list or record that may be cut off. -/
def ended : Option Malformation → Decoded Unit
  | some fault => .error (.malformed fault)
  | none => .ok ()

/-- Decodes items one after the other. -/
def eachItem {α : Type} (decode : Node → Decoded α) : List Node → Decoded (List α)
  | [] => .ok []
  | node :: rest => do
    let item ← decode node
    let items ← eachItem decode rest
    .ok (item :: items)

/-- A list. -/
def asList {α : Type} (decode : Node → Decoded α) : Node → Decoded (List α)
  | .array nodes cut _ => do
    let items ← eachItem decode nodes
    ended cut
    .ok items
  | node => .error (node.mismatch "a sequence")

/-- Decodes members one after the other. -/
def eachMember {α : Type} (decode : Node → Decoded α) :
    List (String × Mark × Node) → Decoded (Fields α)
  | [] => .ok []
  | (key, _, node) :: rest => do
    let item ← decode node
    let items ← eachMember decode rest
    .ok ((key, item) :: items)

/-- A map, sorted by name; of several members with one name the last counts. -/
def asMap {α : Type} (decode : Node → Decoded α) : Node → Decoded (Fields α)
  | .object members cut _ => do
    let entries ← eachMember decode members
    ended cut
    .ok (Fields.sorted entries)
  | node => .error (node.mismatch "a map")

/-- Variables. -/
def asVariables : Node → Decoded Variables := asMap asValue

end Node

/-! ## Records -/

/-- The fields of a kind of record, in their order, and which of them may be missing. -/
structure Shape where
  title : String
  fields : List String
  optional : List String

namespace Shape

/-- Decodes the members of an object into a record: fields are set one after the other, no field
twice, and members that are no fields are passed over. Gives also the fields that were set. -/
def setMembers {α : Type} (shape : Shape) (set : α → String → Node → Decoded α) :
    List (String × Mark × Node) → α → List String → Decoded (α × List String)
  | [], record, seen => .ok (record, seen)
  | (key, mark, node) :: rest, record, seen =>
    if key ∈ shape.fields then
      if key ∈ seen then .error (.mismatch ("duplicate field \x60" ++ key ++ "\x60") mark)
      else do
        let record ← set record key node
        setMembers shape set rest record (key :: seen)
    else do
      let _ ← node.asValue
      setMembers shape set rest record seen

/-- Decodes items into the fields in their order; gives the fields that are left and the items
that are left. -/
def setItems {α : Type} (set : α → String → Node → Decoded α) :
    List String → List Node → α → Decoded (α × List String × List Node)
  | field :: fields, node :: nodes, record => do
    let record ← set record field node
    setItems set fields nodes record
  | fields, nodes, record => .ok (record, fields, nodes)

/-- The first field that must not be missing and was not set. -/
def missing? (shape : Shape) (seen : List String) : Option String :=
  shape.fields.find? (fun field => !seen.contains field && !shape.optional.contains field)

/-- The position in front of an item, with its first byte. -/
def itemMark : Node → Mark
  | .null span | .bool _ span | .int _ span | .number _ span | .text _ span | .array _ _ span
  | .object _ _ span => ⟨span.start.line, span.start.column + 1⟩
  | .broken fault => fault.mark

/-- What is wrong behind the last field, where only the end of the list may follow. -/
def behindLast (fault : Malformation) : Malformation :=
  match fault.cause with
  | .trailingComma | .endInList => fault
  | _ => { fault with cause := .trailingText }

/-- Decodes a record: its fields start with what `start` says. -/
def decode {α : Type} (shape : Shape) (start : α) (set : α → String → Node → Decoded α) :
    Node → Decoded α
  | .object members cut span => do
    let (record, seen) ← shape.setMembers set members start []
    Node.ended cut
    match shape.missing? seen with
    | none => .ok record
    | some field => .error (.mismatch ("missing field \x60" ++ field ++ "\x60") span.stop)
  | .array nodes cut span => do
    let (record, unset, surplus) ← setItems set shape.fields nodes start
    match surplus with
    | node :: _ => .error (.malformed ⟨.trailingText, itemMark node⟩)
    | [] =>
      Node.ended (if unset.isEmpty then cut.map behindLast else cut)
      match unset.find? (fun field => !shape.optional.contains field) with
      | none => .ok record
      | some field =>
        let size := toString (shape.fields.idxOf field)
        .error (.mismatch ("invalid length " ++ size ++ ", expected struct " ++ shape.title ++
          " with " ++ toString shape.fields.length ++ " elements") span.stop)
  | node => .error (node.mismatch ("struct " ++ shape.title))

end Shape

end Json

end Gamebook
