import Gamebook.Markup.Event
import Gamebook.Data
import Gamebook.Decimal.Read
import Gamebook.Fault

/-!
# From events to data

Builds the data tree of a document: plain scalars get their type from their looks, aliases repeat
what they name, and records refuse repeated keys. Then merge keys are resolved: the entries of a
record under `<<` become defaults of the record around it.

* `Data.ofMarkup` : the data of a text, or the fault that keeps it from having one.
-/

namespace Gamebook

namespace Markup

/-! ## The type of a plain scalar -/

private def nullNames : List String := ["", "null", "Null", "NULL", "~"]

private def bool? (text : String) : Option Bool :=
  if text ∈ ["true", "True", "TRUE"] then some true
  else if text ∈ ["false", "False", "FALSE"] then some false
  else none

/-- Digits that are no number, because they begin with zeros: `007`. -/
private def isPaddedNumber (chars : List Char) : Bool :=
  let digits := match chars with
    | '-' :: rest => rest
    | '+' :: rest => rest
    | rest => rest
  match digits with
  | '0' :: rest => !rest.isEmpty && rest.all Char.isDigit
  | _ => false

private def based? (chars : List Char) : Option Nat :=
  match chars with
  | '0' :: 'x' :: rest => readNat? 16 rest
  | '0' :: 'o' :: rest => readNat? 8 rest
  | '0' :: 'b' :: rest => readNat? 2 rest
  | _ => none

private def wholeOrBased? (chars : List Char) : Option Nat :=
  (based? chars).or (if isPaddedNumber chars then none else readNat? 10 chars)

/-- An integer, in decimal or behind `0x`, `0o` or `0b`, with or without a sign. -/
private def int? (chars : List Char) : Option Int :=
  match chars with
  | '-' :: rest => (wholeOrBased? rest).map (fun n => -(n : Int))
  | '+' :: rest => (wholeOrBased? rest).map Int.ofNat
  | rest => (wholeOrBased? rest).map Int.ofNat

private def infinity : Float := Float.ofBits 0x7ff0000000000000

/-- A number with a fraction or an exponent, or one that is not finite. -/
private def float? (chars : List Char) : Option Float :=
  let unsigned := match chars with
    | '+' :: rest => rest
    | rest => rest
  let signedTwice := match chars with
    | '+' :: '+' :: _ => true
    | '+' :: '-' :: _ => true
    | _ => false
  if signedTwice then none
  else if String.ofList unsigned ∈ [".inf", ".Inf", ".INF"] then some infinity
  else if String.ofList chars ∈ ["-.inf", "-.Inf", "-.INF"] then some (-infinity)
  else if String.ofList chars ∈ [".nan", ".NaN", ".NAN"] then
    some (Float.ofBits 0x7ff8000000000000)
  else (Decimal.readFloat? unsigned).bind (fun x => if x.isFinite then some x else none)

/-- The integer fits 64 bits, with or without a sign. -/
def fitsWord (n : Int) : Bool := -0x8000000000000000 ≤ n && n < 0x10000000000000000

/-- The integer fits 128 bits, with or without a sign. -/
def fitsDoubleWord (n : Int) : Bool :=
  -0x80000000000000000000000000000000 ≤ n && n < 0x100000000000000000000000000000000

/-- What a scalar turns out to be. -/
inductive Resolved where
  | data (data : Data)
  /-- An integer that no 64-bit word holds. -/
  | wideInteger

/-- The data that a plain scalar looks like. -/
def resolvePlain (text : String) : Resolved :=
  let chars := text.toList
  if text ∈ nullNames then .data .null
  else
    match bool? text with
    | some b => .data (.bool b)
    | none =>
      match int? chars with
      | some n =>
        if fitsWord n then .data (.int n)
        else if fitsDoubleWord n then .wideInteger
        else if isPaddedNumber chars then .data (.text text)
        else .data (((float? chars).map Data.number).getD (.text text))
      | none =>
        if isPaddedNumber chars then .data (.text text)
        else .data (((float? chars).map Data.number).getD (.text text))

/-- The data of a scalar with one of the tags of the core schema. -/
private def resolveTagged (tag text : String) : Except String Resolved :=
  let misfit (expected : String) : Except String Resolved :=
    .error ("invalid value: string " ++ Text.quoted text ++ ", expected " ++ expected)
  let chars := text.toList
  if tag = "tag:yaml.org,2002:bool" then
    match bool? text with
    | some b => .ok (.data (.bool b))
    | none => misfit "a boolean"
  else if tag = "tag:yaml.org,2002:int" then
    match int? chars with
    | some n =>
      if fitsWord n then .ok (.data (.int n))
      else if fitsDoubleWord n then .ok .wideInteger
      else misfit "an integer"
    | none => misfit "an integer"
  else if tag = "tag:yaml.org,2002:float" then
    match float? chars with
    | some x => .ok (.data (.number x))
    | none => misfit "a float"
  else if tag = "tag:yaml.org,2002:null" then
    if text ∈ nullNames.drop 1 then .ok (.data .null) else misfit "null"
  else .ok (.data (.text text))

/-! ## Aliases -/

/-- An event whose alias names are resolved to anchors. -/
inductive Step where
  | scalar (tag : Option String) (text : String) (style : ScalarStyle) (mark : Mark)
  | sequenceStart (tag : Option String) (mark : Mark)
  | sequenceEnd
  | mappingStart (tag : Option String) (mark : Mark)
  | mappingEnd
  | alias (anchor : Nat) (mark : Mark)

/-- Why a document has no data: what is wrong, and where if that is known. -/
abbrev TreeFault := String × Option Mark

/-- A document whose aliases are resolved. An anchor is numbered when it is met, and stands for the
step at which its number was given last. -/
structure Resolution where
  steps : Array Step := #[]
  names : List (String × Nat) := []
  targets : List (Nat × Nat) := []
  fault : Option TreeFault := none

private def Resolution.anchored (r : Resolution) (anchor : Option String) : Resolution :=
  match anchor with
  | none => r
  | some name =>
    let number := r.names.length
    { r with
      names := Fields.put name number r.names
      targets := (number, r.steps.size) :: r.targets }

private def Resolution.add (r : Resolution) (step : Step) : Resolution :=
  { r with steps := r.steps.push step }

/-- Resolves the aliases of events, up to one that names nothing. -/
private def resolve (r : Resolution) : List Event → Resolution
  | [] => r
  | ⟨kind, mark⟩ :: rest =>
    match kind with
    | .scalar anchor tag text style =>
      resolve ((r.anchored anchor).add (.scalar tag text style mark)) rest
    | .sequenceStart anchor tag => resolve ((r.anchored anchor).add (.sequenceStart tag mark)) rest
    | .sequenceEnd => resolve (r.add .sequenceEnd) rest
    | .mappingStart anchor tag => resolve ((r.anchored anchor).add (.mappingStart tag mark)) rest
    | .mappingEnd => resolve (r.add .mappingEnd) rest
    | .alias name =>
      match Fields.find? name r.names with
      | some number => resolve (r.add (.alias number mark)) rest
      | none => { r with fault := some ("unknown anchor at " ++ mark.text, some mark) }

/-! ## Building -/

/-- The tags that give data a tag of its own, as they are shown. -/
private def ownTag? (tag : Option String) : Option String :=
  match tag.map String.toList with
  | some ['!'] => some "!!"
  | some ('!' :: rest) => some (String.ofList ('!' :: rest))
  | _ => none

/-- How deep collections may be nested. -/
def nestingLimit : Nat := 128

/-- Building counts how often an alias was followed. -/
abbrev Build := StateT Nat (Except TreeFault)

private def fail {α : Type} (message : String) (mark : Option Mark) : Build α :=
  throw (message ++ (mark.map (fun m => " at " ++ m.text)).getD "", mark)

variable (r : Resolution)

/-- The step at a position; behind the last one, what ended the document early. -/
private def stepAt (pos : Nat) : Build Step :=
  match r.steps[pos]? with
  | some step => pure step
  | none => throw (r.fault.getD ("EOF while parsing a value", none))

mutual

/-- The data that begins at a position, and the position behind it. `bare` data has had its tag
taken off. -/
private def build : Nat → Nat → Nat → Bool → Build (Data × Nat)
  | 0, _, _, _ => fail "recursion limit exceeded" none
  | fuel + 1, depth, pos, bare => do
    let tagged (tag : String) : Build (Data × Nat) := do
      let (inner, after) ← build fuel depth pos true
      pure (.tagged tag inner, after)
    match ← stepAt r pos with
    | .alias anchor _ =>
      modify (· + 1)
      if r.steps.size * 100 < (← get) then fail "repetition limit exceeded" none
      let (data, _) ← build fuel depth ((r.targets.lookup anchor).getD 0) false
      pure (data, pos + 1)
    | .scalar tag text style mark =>
      match if bare then none else ownTag? tag with
      | some own => tagged own
      | none =>
        let resolved ← match if bare then none else tag with
          | some tag =>
            match resolveTagged tag text with
            | .ok resolved => pure resolved
            | .error message => fail message (some mark)
          | none =>
            pure (if style = .plain then resolvePlain text else .data (.text text))
        match resolved with
        | .data data => pure (data, pos + 1)
        | .wideInteger =>
          fail "invalid type: integer that fits no 64 bits, expected any YAML value" (some mark)
    | .sequenceStart tag mark =>
      match if bare then none else ownTag? tag with
      | some own => tagged own
      | none =>
        if depth = 0 then fail "recursion limit exceeded" (some mark)
        let (items, after) ← buildItems fuel (depth - 1) (pos + 1)
        pure (.list items, after)
    | .mappingStart tag mark =>
      match if bare then none else ownTag? tag with
      | some own => tagged own
      | none =>
        if depth = 0 then fail "recursion limit exceeded" (some mark)
        let (entries, after) ← buildEntries fuel (depth - 1) (pos + 1) mark []
        pure (.record entries, after)
    | .sequenceEnd => fail "unexpected end of sequence" none
    | .mappingEnd => fail "unexpected end of mapping" none

/-- The items of a list from a position on, and the position behind its end. -/
private def buildItems : Nat → Nat → Nat → Build (List Data × Nat)
  | 0, _, _ => fail "recursion limit exceeded" none
  | fuel + 1, depth, pos => do
    match ← stepAt r pos with
    | .sequenceEnd => pure ([], pos + 1)
    | _ =>
      let (item, after) ← build fuel depth pos false
      let (items, stop) ← buildItems fuel depth after
      pure (item :: items, stop)

/-- The entries of a record from a position on, behind those in `done`. -/
private def buildEntries : Nat → Nat → Nat → Mark → List (Data × Data) →
    Build (List (Data × Data) × Nat)
  | 0, _, _, _, _ => fail "recursion limit exceeded" none
  | fuel + 1, depth, pos, mark, done => do
    match ← stepAt r pos with
    | .mappingEnd => pure (done, pos + 1)
    | _ =>
      let (key, behindKey) ← build fuel depth pos false
      if done.any (fun entry => entry.1.same key) then
        fail "duplicate entry in mapping" (some mark)
      let (value, after) ← build fuel depth behindKey false
      buildEntries fuel depth after mark (done ++ [(key, value)])

end

/-! ## Merge keys -/

private def isMergeKey : Data → Bool
  | .text s => s = "<<"
  | _ => false

/-- Takes out the entry under the merge key; the last entry moves into its place. -/
private def takeMerge (entries : List (Data × Data)) : Option Data × List (Data × Data) :=
  let before := entries.takeWhile (fun entry => !isMergeKey entry.1)
  match entries.dropWhile (fun entry => !isMergeKey entry.1) with
  | [] => (none, entries)
  | (_, merged) :: rest =>
    match rest.getLast? with
    | some last => (some merged, before ++ last :: rest.dropLast)
    | none => (some merged, before)

/-- Adds the entries whose keys are not there yet. -/
private def addMissing (entries added : List (Data × Data)) : List (Data × Data) :=
  added.foldl (fun acc entry =>
    if acc.any (fun old => old.1.same entry.1) then acc else acc ++ [entry]) entries

/-- The records that a merge value stands for. -/
private def mergeSources : Data → Except TreeFault (List (List (Data × Data)))
  | .record entries => .ok [entries]
  | .list items => items.mapM fun item =>
    match item with
    | .record entries => .ok entries
    | .list _ => .error ("expected a mapping for merging, but found sequence", none)
    | .tagged .. => .error ("unexpected tagged value in merge", none)
    | _ => .error ("expected a mapping for merging, but found scalar", none)
  | .tagged .. => .error ("unexpected tagged value in merge", none)
  | _ => .error ("expected a mapping or list of mappings for merging, but found scalar", none)

/-- Resolves merge keys, at most `fuel` levels deep. -/
def merge : Nat → Data → Except TreeFault Data
  | 0, data => .ok data
  | fuel + 1, data =>
    match data with
    | .record entries => do
      let (merged, rest) := takeMerge entries
      let sources ← match merged with
        | none => .ok []
        | some value => mergeSources value
      let all := sources.foldl addMissing rest
      let all ← all.mapM fun (key, value) => do
        let value ← merge fuel value
        pure (key, value)
      pure (.record all)
    | .list items => do
      let items ← items.mapM (merge fuel)
      pure (.list items)
    | .tagged tag inner => do
      let inner ← merge fuel inner
      pure (.tagged tag inner)
    | other => .ok other

/-- The data of a text before merge keys are resolved; a text without a document holds nothing. -/
def tree (text : String) : Except TreeFault Data := do
  let chars := match text.toList with
    | '\ufeff' :: rest => rest
    | chars => chars
  if !chars.all isPrintable then
    throw ("control characters are not allowed", some {})
  let (tokens, complaint) := Token.ofText chars
  let document := FirstDocument.ofTokens tokens complaint
  let resolution := resolve {} document.events
  let resolution :=
    if resolution.fault.isSome then resolution
    else { resolution with fault := document.complaint.map (fun c => (c.message, some c.mark)) }
  if resolution.steps.isEmpty && resolution.fault.isNone then pure .null
  else
    let fuel := (resolution.steps.size + 4) * (nestingLimit + 4)
    let ((data, _), _) ← (build resolution fuel nestingLimit 0 false).run 0
    match resolution.fault with
    | some fault => throw fault
    | none =>
      if document.more then
        throw ("deserializing from YAML containing more than one document is not supported", none)
      else pure data

private def Mark.place (mark : Mark) : Place := ⟨mark.line + 1, mark.column + 1⟩

end Markup

/-- The data of a markup text, with merge keys resolved. -/
def Data.ofMarkup (text : String) : Except Fault Data :=
  let asFault (fault : Markup.TreeFault) : Fault :=
    .markup fault.1 (fault.2.map fun mark => ⟨mark.line + 1, mark.column + 1⟩)
  match Markup.tree text with
  | .error fault => .error (asFault fault)
  | .ok .null => .error .emptyDocument
  | .ok data => (Markup.merge (2 * Markup.nestingLimit + 4) data).mapError asFault

end Gamebook
