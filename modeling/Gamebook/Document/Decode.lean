import Gamebook.Data
import Gamebook.Document.Basic

/-!
# Reading data as a gamebook

`Document.ofData` reads a data tree as a gamebook, or says what the first misfit is, in the order
in which the data is written. Unknown fields are passed over, absent ones have their defaults; only
the sections are required.

Two kinds of text hold documents, and a `Dialect` says where they differ: what an absent value is
called, whether it stands for an empty record or list, and whether a record may be written as the
list of its fields.
-/

namespace Gamebook

/-- Where the kinds of text that hold documents differ. -/
structure Dialect where
  /-- What messages call an absent value. -/
  nullName : String
  /-- An absent value reads as a list or record without content. -/
  nullIsEmpty : Bool
  /-- A record may be written as the list of its field values. -/
  listIsRecord : Bool
  /-- How messages write a number. -/
  numberText : Float → String

namespace Dialect

/-- Documents in markup. -/
def markup : Dialect where
  nullName := "unit value"
  nullIsEmpty := true
  listIsRecord := false
  numberText x :=
    let digits := Layout.plain.text x
    if x.isFinite && !digits.toList.contains '.' then digits ++ ".0" else digits

/-- Documents in JSON. -/
def json : Dialect where
  nullName := "null"
  nullIsEmpty := false
  listIsRecord := true
  numberText := Layout.data.text

end Dialect

/-- Why data is no gamebook. -/
inductive Misfit where
  /-- The text itself is broken at this point. -/
  | malformed (reason : String)
  | mismatch (reason : String)
  deriving Repr, DecidableEq

/-- The wording of a misfit. -/
def Misfit.message : Misfit → String
  | malformed reason => reason
  | mismatch reason => reason

namespace Data

/-- A name in back quotes. -/
def ticked (s : String) : String := "\x60" ++ s ++ "\x60"

/-- What messages call the data. -/
def describe (d : Dialect) : Data → String
  | null => d.nullName
  | bool b => "boolean " ++ ticked (if b then "true" else "false")
  | int n => "integer " ++ ticked (toString n)
  | number x => "floating point " ++ ticked (d.numberText x)
  | text s => "string " ++ Text.quoted s
  | list _ => "sequence"
  | record _ => "map"
  | tagged .. => "enum"
  | broken _ => ""

/-- The complaint that the data is not what was expected. -/
def misfit (d : Dialect) (data : Data) (expected : String) : Misfit :=
  match data with
  | broken reason => .malformed reason
  | _ => .mismatch ("invalid type: " ++ data.describe d ++ ", expected " ++ expected)

mutual

/-- The first thing inside the data that keeps it from being read by its form alone: a place where
the text is broken, or a tag. -/
def obstacle? : Data → Option Misfit
  | broken reason => some (.malformed reason)
  | tagged .. =>
    some (.mismatch "untagged and internally tagged enums do not support enum input")
  | list items => itemObstacle? items
  | record entries => entryObstacle? entries
  | _ => none

/-- The first obstacle in a list. -/
def itemObstacle? : List Data → Option Misfit
  | [] => none
  | item :: rest => (obstacle? item).or (itemObstacle? rest)

/-- The first obstacle in a record. -/
def entryObstacle? : List (Data × Data) → Option Misfit
  | [] => none
  | (key, value) :: rest => ((obstacle? key).or (obstacle? value)).or (entryObstacle? rest)

end

mutual

/-- The data as a value: integers that do not fit 64 signed bits are numbers, and the keys of
records must be texts. -/
def value? : Data → Option Value
  | null => some .nil
  | bool b => some (.bool b)
  | int n => some (if n < 0x8000000000000000 then .int (Int64.ofInt n) else .number (Float.ofInt n))
  | number x => some (.number x)
  | text s => some (.text s)
  | list items => (itemValues? items).map .list
  | record entries => (entryValues? entries).map (fun fields => .record (Fields.sorted fields))
  | tagged .. => none
  | broken _ => none

/-- The items of a list as values. -/
def itemValues? : List Data → Option (List Value)
  | [] => some []
  | item :: rest => do
    let v ← value? item
    let vs ← itemValues? rest
    some (v :: vs)

/-- The entries of a record as named values. -/
def entryValues? : List (Data × Data) → Option (List (String × Value))
  | [] => some []
  | (text key, value) :: rest => do
    let v ← value? value
    let vs ← entryValues? rest
    some ((key, v) :: vs)
  | _ => none

end

/-! ## Reading by form -/

/-- Reads data that may have several forms: no tags inside, and one of the forms must fit. -/
def byForm {α : Type} (name : String) (form? : Data → Option α) (data : Data) :
    Except Misfit α :=
  match data.obstacle? with
  | some misfit => .error misfit
  | none =>
    match form? data with
    | some a => .ok a
    | none => .error (.mismatch ("data did not match any variant of untagged enum " ++ name))

/-- A credit: a text, or a number or truth value as text. -/
def scalarText? : Data → Option String
  | text s => some s
  | int n => some (Gamebook.numberText (Float.ofInt n))
  | number x => some (Gamebook.numberText x)
  | bool b => some (if b then "true" else "false")
  | _ => none

/-- A text. -/
def text? : Data → Option String
  | text s => some s
  | _ => none

/-- A text, or nothing. -/
def optionalText? : Data → Option (Option String)
  | null => some none
  | text s => some (some s)
  | _ => none

/-- Texts and nothing else. -/
def texts? : List Data → Option (List String)
  | [] => some []
  | text s :: rest => (texts? rest).map (s :: ·)
  | _ => none

/-- A list of texts. -/
def flags? : Data → Option (List String)
  | list items => texts? items
  | _ => none

/-- A truth value. -/
def flag? : Data → Option Bool
  | bool b => some b
  | _ => none

/-- The fields of a detailed option, in the order of a positional record. -/
def optionFields : List String := ["text", "goto", "if", "run", "notify", "flags", "hidden"]

/-- The field that a key names: by its name, or by its position. -/
def optionField? : Data → Option (Option String)
  | text s => some (if s ∈ optionFields then some s else none)
  | int n => if 0 ≤ n then some (optionFields[n.toNat]?) else none
  | _ => none

/-- Reads one field of a detailed option; no field may be written twice. -/
def optionStep (seen : List String × OptionDetail) (entry : Data × Data) :
    Option (List String × OptionDetail) := do
  let (names, detail) := seen
  match ← optionField? entry.1 with
  | none => some (names, detail)
  | some field =>
    if field ∈ names then none
    else
      let names := field :: names
      match field with
      | "text" => (text? entry.2).map (fun v => (names, { detail with text := v }))
      | "goto" => (optionalText? entry.2).map (fun v => (names, { detail with goto := v }))
      | "if" => (optionalText? entry.2).map (fun v => (names, { detail with condition := v }))
      | "run" => (optionalText? entry.2).map (fun v => (names, { detail with run := v }))
      | "notify" => (optionalText? entry.2).map (fun v => (names, { detail with notify := v }))
      | "flags" => (flags? entry.2).map (fun v => (names, { detail with flags := v }))
      | _ => (flag? entry.2).map (fun v => (names, { detail with hidden := v }))

/-- A detailed option from its entries; it must have a text. -/
def detail? (entries : List (Data × Data)) : Option OptionSpec := do
  let (names, detail) ← entries.foldlM optionStep ([], ⟨"", none, none, none, none, [], false⟩)
  if "text" ∈ names then some (.detailed detail) else none

/-- An option: two texts, a record, or the list of a record's first fields. -/
def option? : Data → Option OptionSpec
  | list [text a, text b] => some (.pair a b)
  | list items =>
    if items.length ≤ optionFields.length then
      detail? ((optionFields.map text).zip items)
    else none
  | record entries => detail? entries
  | _ => none

/-! ## Reading by type -/

/-- The data is a text. -/
def asText (d : Dialect) (expected : String) (data : Data) : Except Misfit String :=
  match data.untagged with
  | text s => .ok s
  | other => .error (other.misfit d expected)

/-- The data is a text or absent. -/
def asOptionalText (d : Dialect) : Data → Except Misfit (Option String)
  | null => .ok none
  | data => (data.asText d "a string").map some

/-- The data is a credit or absent. -/
def asCredit : Data → Except Misfit (Option String)
  | null => .ok none
  | data => (data.byForm "ScalarText" scalarText?).map some

/-- The data is a list of texts. -/
def asTexts (d : Dialect) (data : Data) : Except Misfit (List String) :=
  match data.untagged with
  | list items => items.mapM (asText d "a string")
  | null => if d.nullIsEmpty then .ok [] else .error (null.misfit d "a sequence")
  | other => .error (other.misfit d "a sequence")

/-- The data is a record with texts as keys, whose values are read one after the other. A repeated
key keeps its first place and its last value. -/
def asFields {α : Type} (d : Dialect) (read : Data → Except Misfit α) (data : Data) :
    Except Misfit (Fields α) :=
  match data.untagged with
  | record entries =>
    entries.foldlM (fun fields (key, value) => do
      let name ← key.asText d "a string"
      let v ← read value
      pure (Fields.put name v fields)) []
  | null => if d.nullIsEmpty then .ok [] else .error (null.misfit d "a map")
  | other => .error (other.misfit d "a map")

/-- The fields of a record with fixed field names, each handed to `step` in the order of the text;
gives also which of the names were met. -/
def readRecord {σ : Type} (d : Dialect) (title : String) (names : List String) (data : Data)
    (start : σ) (step : σ → String → Data → Except Misfit σ) : Except Misfit (σ × List String) :=
  match data.untagged with
  | record entries =>
    entries.foldlM (fun (state, seen) (key, value) => do
      let name ← key.asText d "field identifier"
      if name ∉ names then pure (state, seen)
      else if name ∈ seen then
        throw (.mismatch ("duplicate field " ++ ticked name))
      else
        let state ← step state name value
        pure (state, name :: seen)) (start, [])
  | list items =>
    if d.listIsRecord then do
      let result ← (names.zip items).foldlM (fun (state, seen) (name, value) => do
        let state ← step state name value
        pure (state, name :: seen)) (start, [])
      if names.length < items.length then throw (.malformed "trailing characters")
      else pure result
    else .error (data.untagged.misfit d ("struct " ++ title))
  | null =>
    if d.nullIsEmpty then .ok (start, []) else .error (null.misfit d ("struct " ++ title))
  | other => .error (other.misfit d ("struct " ++ title))

/-- An event handler. -/
def asEvent (d : Dialect) (data : Data) : Except Misfit EventSpec := do
  let (event, _) ← readRecord d "EventDoc" ["params", "run"] data ({} : EventSpec)
    fun event name value =>
      if name = "params" then (value.asTexts d).map (fun v => { event with params := v })
      else (value.asText d "a string").map (fun v => { event with run := v })
  pure event

/-- A hook handler. -/
def asHook (d : Dialect) (data : Data) : Except Misfit HookSpec := do
  let (hook, _) ← readRecord d "HookDoc" ["run"] data ({} : HookSpec)
    fun hook _ value => (value.asText d "a string").map (fun v => { hook with run := v })
  pure hook

/-- Named values. -/
def asVariables (d : Dialect) (data : Data) : Except Misfit Variables :=
  data.asFields d (byForm "CxValue" value?)

/-- A section. -/
def asSection (d : Dialect) (data : Data) : Except Misfit SectionSpec := do
  let names := ["title", "text", "vars", "run", "options"]
  let (spec, _) ← readRecord d "SectionDoc" names data ({} : SectionSpec) fun spec name value =>
    match name with
    | "title" => (value.asOptionalText d).map (fun v => { spec with title := v })
    | "text" => (value.asText d "a string").map (fun v => { spec with text := v })
    | "vars" => (value.asVariables d).map (fun v => { spec with vars := v })
    | "run" => (value.asOptionalText d).map (fun v => { spec with run := v })
    | _ => (value.asFields d (byForm "OptionDoc" option?)).map
        (fun v => { spec with options := v })
  pure spec

end Data

/-- Reads data as a gamebook. -/
def Document.ofData (d : Dialect) (data : Data) : Except Misfit Document := do
  let names := ["title", "author", "version", "vars", "init", "events", "hooks", "sections"]
  let (document, seen) ← Data.readRecord d "StoryDoc" names data ({} : Document)
    fun document name value =>
      match name with
      | "title" => (value.asText d "a string").map (fun v => { document with title := v })
      | "author" => value.asCredit.map (fun v => { document with author := v })
      | "version" => value.asCredit.map (fun v => { document with version := v })
      | "vars" => (value.asVariables d).map (fun v => { document with vars := v })
      | "init" => (value.asOptionalText d).map (fun v => { document with init := v })
      | "events" => (value.asFields d (Data.asEvent d)).map
          (fun v => { document with events := v })
      | "hooks" => (value.asFields d (Data.asHook d)).map (fun v => { document with hooks := v })
      | _ => (value.asFields d (Data.asSection d)).map (fun v => { document with sections := v })
  if "sections" ∈ seen then pure document
  else match data with
    | .list items =>
      let length := "invalid length " ++ toString (max items.length 7)
      throw (.mismatch (length ++ ", expected struct StoryDoc with 8 elements"))
    | _ => throw (.mismatch "missing field \x60sections\x60")

/-- Reads JSON text as a gamebook, without checking its names. -/
def Document.ofJsonText (s : String) : Except Misfit Document := do
  let (node, after) := Json.read s
  let document ← Document.ofData .json (Data.ofJson node)
  match after with
  | some fault => throw (.malformed fault.cause.message)
  | none => pure document

end Gamebook
