import Gamebook.Json.Basic
import Gamebook.Text.Quoted

/-!
# Reading JSON text

`Json.read` turns text into a tree of `Json.Node`s that know where they stand. Where the text is
malformed, reading stops: the tree ends in the fault, with everything read before it in place, so
that a decoder that walks the tree in the order of the text meets its own complaints and the
malformed place in that order too.

Places count lines from one and bytes in a line from zero, as positions between bytes.
-/

namespace Gamebook

namespace Json

/-- A position between two bytes: the line, and the bytes before it in that line. -/
structure Mark where
  line : Nat
  column : Nat
  deriving Repr, DecidableEq, Inhabited

/-- The position after a character. -/
def Mark.after (mark : Mark) (c : Char) : Mark :=
  if c = '\n' then ⟨mark.line + 1, 0⟩ else ⟨mark.line, mark.column + c.utf8Size⟩

/-- Why text is malformed. -/
inductive Malformed where
  | endInList | endInObject | endInString | endInValue
  | expectedColon | expectedListEnd | expectedObjectEnd | expectedIdent | expectedValue
  | badEscape | badNumber | numberRange | controlCharacter | keyNotString
  | loneSurrogate | trailingComma | trailingText | endOfHexEscape | tooDeep
  deriving Repr, DecidableEq

/-- The wording of a malformation. -/
def Malformed.message : Malformed → String
  | endInList => "EOF while parsing a list"
  | endInObject => "EOF while parsing an object"
  | endInString => "EOF while parsing a string"
  | endInValue => "EOF while parsing a value"
  | expectedColon => "expected \x60:\x60"
  | expectedListEnd => "expected \x60,\x60 or \x60]\x60"
  | expectedObjectEnd => "expected \x60,\x60 or \x60\x7d\x60"
  | expectedIdent => "expected ident"
  | expectedValue => "expected value"
  | badEscape => "invalid escape"
  | badNumber => "invalid number"
  | numberRange => "number out of range"
  | controlCharacter => "control character (\\u0000-\\u001F) found while parsing a string"
  | keyNotString => "key must be a string"
  | loneSurrogate => "lone leading surrogate in hex escape"
  | trailingComma => "trailing comma"
  | trailingText => "trailing characters"
  | endOfHexEscape => "unexpected end of hex escape"
  | tooDeep => "recursion limit exceeded"

/-- A malformation and where it was noticed. -/
structure Malformation where
  cause : Malformed
  mark : Mark
  deriving Repr, DecidableEq

/-- The positions at the two ends of a value. -/
structure Span where
  start : Mark
  stop : Mark
  deriving Repr, DecidableEq

/-- A value as it stands in a text. `broken` is where reading stopped; lists and objects may be cut
off between their parts. A member's mark is the position behind its name. -/
inductive Node where
  | null (span : Span)
  | bool (b : Bool) (span : Span)
  | int (n : Int) (span : Span)
  | number (x : Float) (span : Span)
  | text (s : String) (span : Span)
  | array (items : List Node) (cut : Option Malformation) (span : Span)
  | object (members : List (String × Mark × Node)) (cut : Option Malformation) (span : Span)
  | broken (fault : Malformation)

/-- The rest of a text and the position in front of it. -/
structure Cursor where
  rest : List Char
  mark : Mark

namespace Cursor

/-- The start of a text. -/
def ofString (s : String) : Cursor := ⟨s.toList, ⟨1, 0⟩⟩

/-- Behind the next character. -/
def step (at_ : Cursor) : Cursor :=
  match at_.rest with
  | [] => at_
  | c :: rest => ⟨rest, at_.mark.after c⟩

/-- The position behind the next byte, or the end of the text. -/
def ahead (at_ : Cursor) : Mark :=
  match at_.rest with
  | [] => at_.mark
  | c :: _ => if c = '\n' then ⟨at_.mark.line + 1, 0⟩ else ⟨at_.mark.line, at_.mark.column + 1⟩

/-- A malformation noticed here. -/
def faultHere (at_ : Cursor) (cause : Malformed) : Malformation := ⟨cause, at_.mark⟩

/-- A malformation of the next character. -/
def faultAhead (at_ : Cursor) (cause : Malformed) : Malformation := ⟨cause, at_.ahead⟩

/-- Behind the blanks. -/
def skipBlanks (at_ : Cursor) : Cursor := go at_.mark at_.rest
where
  go (mark : Mark) : List Char → Cursor
    | [] => ⟨[], mark⟩
    | c :: rest =>
      if c = ' ' ∨ c = '\n' ∨ c = '\t' ∨ c = '\r' then go (mark.after c) rest else ⟨c :: rest, mark⟩

end Cursor

/-! ## Words and numbers -/

/-- Reads the remaining letters of a word. -/
def readWord (expected : List Char) (at_ : Cursor) : Except Malformation Cursor :=
  match expected with
  | [] => .ok at_
  | e :: more =>
    match at_.rest with
    | [] => .error (at_.faultHere .endInValue)
    | c :: _ =>
      if c = e then readWord more at_.step else .error (at_.step.faultHere .expectedIdent)

/-- A number literal as written: the digits that fit 64 bits, and a power of ten. -/
structure Numeral where
  significand : Nat
  exponent : Int

/-- The digits fit 64 bits with one more. -/
def fits (significand digit : Nat) : Bool := significand * 10 + digit < 0x10000000000000000

/-- The float nearest to a power of ten. -/
def powerOfTen (n : Nat) : Float := Float.ofScientific 1 false n

/-- The number that a numeral denotes: its digits scaled by powers of ten up to `10^308`, each step
rounded; `none` if it is too great. -/
def Numeral.toFloat? (numeral : Numeral) : Option Float :=
  go (numeral.exponent.natAbs / 308 + 2) (Float.ofNat numeral.significand) numeral.exponent
where
  go : Nat → Float → Int → Option Float
    | 0, f, _ => some f
    | fuel + 1, f, exponent =>
      if exponent.natAbs ≤ 308 then
        let scaled :=
          if 0 ≤ exponent then f * powerOfTen exponent.natAbs else f / powerOfTen exponent.natAbs
        if 0 ≤ exponent && scaled.isInf then none else some scaled
      else if f == 0.0 then some f
      else if 0 ≤ exponent then none
      else go fuel (f / powerOfTen 308) (exponent + 308)

/-- A number literal's value. -/
inductive Amount where
  | int (n : Int)
  | number (x : Float)

/-- The value of a decimal digit. -/
def digitOf? (c : Char) : Option Nat := if c.isDigit then some (c.toNat - 48) else none

/-- Behind the digits. -/
def skipDigits (at_ : Cursor) : Cursor := go at_.mark at_.rest
where
  go (mark : Mark) : List Char → Cursor
    | [] => ⟨[], mark⟩
    | c :: rest => if c.isDigit then go (mark.after c) rest else ⟨c :: rest, mark⟩

/-- Takes digits while they fit 64 bits: the significand, how many were taken, and the rest. -/
def takeDigits (significand : Nat) (at_ : Cursor) : Nat × Nat × Cursor :=
  go significand 0 at_.mark at_.rest
where
  go (significand count : Nat) (mark : Mark) : List Char → Nat × Nat × Cursor
    | [] => (significand, count, ⟨[], mark⟩)
    | c :: rest =>
      match digitOf? c with
      | some d =>
        if fits significand d then go (significand * 10 + d) (count + 1) (mark.after c) rest
        else (significand, count, ⟨c :: rest, mark⟩)
      | none => (significand, count, ⟨c :: rest, mark⟩)

/-- A digit comes next. -/
def startsWithDigit (at_ : Cursor) : Bool :=
  match at_.rest with
  | c :: _ => c.isDigit
  | [] => false

/-- Signs a finished numeral. -/
def finish (negative : Bool) (numeral : Numeral) (at_ : Cursor) :
    Except Malformation (Amount × Cursor) :=
  match numeral.toFloat? with
  | some x => .ok (.number (if negative then -x else x), at_)
  | none => .error (at_.faultHere .numberRange)

/-- Reads the digits of an exponent, at most `2^31 - 1`; `none` if it is greater. -/
def readExponentDigits (at_ : Cursor) : Option Nat × Cursor := go 0 at_.mark at_.rest
where
  go (value : Nat) (mark : Mark) : List Char → Option Nat × Cursor
    | [] => (some value, ⟨[], mark⟩)
    | c :: rest =>
      match digitOf? c with
      | some d =>
        if value * 10 + d < 0x80000000 then go (value * 10 + d) (mark.after c) rest
        else (none, ⟨rest, mark.after c⟩)
      | none => (some value, ⟨c :: rest, mark⟩)

/-- Reads an exponent behind its letter. -/
def readExponent (negative : Bool) (numeral : Numeral) (at_ : Cursor) :
    Except Malformation (Amount × Cursor) :=
  let (down, digits) := match at_.rest with
    | '+' :: _ => (false, at_.step)
    | '-' :: _ => (true, at_.step)
    | _ => (false, at_)
  match digits.rest with
  | [] => .error (digits.faultHere .endInValue)
  | _ :: _ =>
    if !startsWithDigit digits then .error (digits.step.faultHere .badNumber)
    else match readExponentDigits digits with
      | (some e, after) =>
        finish negative ⟨numeral.significand, numeral.exponent + (if down then -(e : Int) else e)⟩
          after
      | (none, after) =>
        if numeral.significand ≠ 0 ∧ !down then .error (after.faultHere .numberRange)
        else finish negative ⟨0, 0⟩ (skipDigits after)

/-- Reads an exponent, if there is one. -/
def readExponentOrEnd (negative : Bool) (numeral : Numeral) (at_ : Cursor) :
    Except Malformation (Amount × Cursor) :=
  match at_.rest with
  | 'e' :: _ => readExponent negative numeral at_.step
  | 'E' :: _ => readExponent negative numeral at_.step
  | _ => finish negative numeral at_

/-- Reads a fraction behind its point. Digits beyond 64 bits are passed over. -/
def readFraction (negative : Bool) (numeral : Numeral) (at_ : Cursor) :
    Except Malformation (Amount × Cursor) :=
  let (significand, count, after) := takeDigits numeral.significand at_
  let scaled : Numeral := ⟨significand, numeral.exponent - count⟩
  if startsWithDigit after then readExponentOrEnd negative scaled (skipDigits after)
  else if count = 0 then
    match after.rest with
    | [] => .error (after.faultAhead .endInValue)
    | _ => .error (after.faultAhead .badNumber)
  else readExponentOrEnd negative scaled after

/-- What follows the digits before the point. `dropped` counts digits that did not fit. -/
def readNumberRest (negative : Bool) (significand dropped : Nat) (at_ : Cursor) :
    Except Malformation (Amount × Cursor) :=
  match at_.rest with
  | '.' :: _ => readFraction negative ⟨significand, dropped⟩ at_.step
  | 'e' :: _ => readExponent negative ⟨significand, dropped⟩ at_.step
  | 'E' :: _ => readExponent negative ⟨significand, dropped⟩ at_.step
  | _ =>
    if dropped ≠ 0 then finish negative ⟨significand, dropped⟩ at_
    else if !negative then .ok (.int significand, at_)
    else if significand = 0 ∨ 0x8000000000000000 < significand then
      .ok (.number (-(Float.ofNat significand)), at_)
    else .ok (.int (-(significand : Int)), at_)

/-- Reads a number behind its sign. A number without fraction and exponent is an integer if it fits
64 bits. -/
def readNumber (negative : Bool) (at_ : Cursor) : Except Malformation (Amount × Cursor) :=
  match at_.rest with
  | [] => .error (at_.faultHere .endInValue)
  | '0' :: _ =>
    if startsWithDigit at_.step then .error (at_.step.faultAhead .badNumber)
    else readNumberRest negative 0 0 at_.step
  | c :: _ =>
    if c.isDigit then
      let (significand, _, after) := takeDigits 0 at_
      let behind := skipDigits after
      readNumberRest negative significand (after.rest.length - behind.rest.length) behind
    else .error (at_.step.faultHere .badNumber)

/-! ## Strings -/

/-- The value of a hexadecimal digit of either case. -/
def hexValue? (c : Char) : Option Nat :=
  if c.isDigit then some (c.toNat - 48)
  else if 'a' ≤ c ∧ c ≤ 'f' then some (c.toNat - 87)
  else if 'A' ≤ c ∧ c ≤ 'F' then some (c.toNat - 55)
  else none

/-- The end of the text. -/
def toEnd (at_ : Cursor) : Cursor := ⟨[], at_.rest.foldl Mark.after at_.mark⟩

/-- Reads four hexadecimal digits. -/
def readHex (at_ : Cursor) : Except Malformation (Nat × Cursor) :=
  match at_.rest with
  | a :: b :: c :: d :: rest =>
    let after : Cursor := ⟨rest, [a, b, c, d].foldl Mark.after at_.mark⟩
    match hexValue? a, hexValue? b, hexValue? c, hexValue? d with
    | some a, some b, some c, some d => .ok (((a * 16 + b) * 16 + c) * 16 + d, after)
    | _, _, _, _ => .error (after.faultHere .badEscape)
  | _ => .error ((toEnd at_).faultHere .endInString)

/-- Reads a hexadecimal escape behind its letter; characters beyond 16 bits take two of them. -/
def readUnicode (at_ : Cursor) : Except Malformation (Char × Cursor) := do
  let (high, after) ← readHex at_
  if 0xdc00 ≤ high ∧ high ≤ 0xdfff then .error (after.faultHere .loneSurrogate)
  else if high < 0xd800 ∨ 0xdbff < high then .ok (Char.ofNat high, after)
  else
    match after.rest with
    | [] => .error (after.faultHere .endInString)
    | '\\' :: [] => .error (after.step.faultHere .endInString)
    | '\\' :: 'u' :: _ =>
      let (low, behind) ← readHex after.step.step
      if low < 0xdc00 ∨ 0xdfff < low then .error (behind.faultHere .loneSurrogate)
      else .ok (Char.ofNat ((high - 0xd800) * 1024 + (low - 0xdc00) + 0x10000), behind)
    | '\\' :: _ => .error (after.step.step.faultHere .endOfHexEscape)
    | _ => .error (after.step.faultHere .endOfHexEscape)

/-- Reads an escape behind its backslash. -/
def readEscape (at_ : Cursor) : Except Malformation (Char × Cursor) :=
  match at_.rest with
  | [] => .error (at_.faultHere .endInString)
  | '"' :: _ => .ok ('"', at_.step)
  | '\\' :: _ => .ok ('\\', at_.step)
  | '/' :: _ => .ok ('/', at_.step)
  | 'b' :: _ => .ok ('\x08', at_.step)
  | 'f' :: _ => .ok ('\x0c', at_.step)
  | 'n' :: _ => .ok ('\n', at_.step)
  | 'r' :: _ => .ok ('\r', at_.step)
  | 't' :: _ => .ok ('\t', at_.step)
  | 'u' :: _ => readUnicode at_.step
  | _ => .error (at_.step.faultHere .badEscape)

/-- Reads a string behind its opening quote; each round takes at least one character. -/
def readString : Nat → List Char → Cursor → Except Malformation (String × Cursor)
  | 0, _, at_ => .error (at_.faultHere .endInString)
  | fuel + 1, taken, at_ =>
    match at_.rest with
    | [] => .error (at_.faultHere .endInString)
    | '"' :: _ => .ok (String.ofList taken.reverse, at_.step)
    | '\\' :: _ => do
      let (c, after) ← readEscape at_.step
      readString fuel (c :: taken) after
    | c :: _ =>
      if c.toNat < 32 then .error (at_.step.faultHere .controlCharacter)
      else readString fuel (c :: taken) at_.step

/-! ## Values -/

/-- How deep lists and objects may be nested. -/
def depthLimit : Nat := 127

/-- The node of something without parts, and where reading goes on. -/
def scalar (start : Cursor) (node : Span → Node) :
    Except Malformation Cursor → Node × Option Cursor
  | .ok after => (node ⟨start.mark, after.mark⟩, some after)
  | .error fault => (.broken fault, none)

mutual

/-- Reads a value; gives where it ended unless reading stopped inside it. -/
def readValue : Nat → Nat → Cursor → Node × Option Cursor
  | 0, _, at_ => (.broken (at_.faultAhead .endInValue), none)
  | fuel + 1, depth, start =>
    let at_ := start.skipBlanks
    match at_.rest with
    | [] => (.broken (at_.faultAhead .endInValue), none)
    | 'n' :: _ => scalar at_ .null (readWord ['u', 'l', 'l'] at_.step)
    | 't' :: _ => scalar at_ (.bool true) (readWord ['r', 'u', 'e'] at_.step)
    | 'f' :: _ => scalar at_ (.bool false) (readWord ['a', 'l', 's', 'e'] at_.step)
    | '"' :: _ =>
      match readString (at_.rest.length) [] at_.step with
      | .ok (s, after) => (.text s ⟨at_.mark, after.mark⟩, some after)
      | .error fault => (.broken fault, none)
    | '[' :: _ =>
      if depth = 0 then (.broken (at_.faultAhead .tooDeep), none)
      else
        let (items, cut, after) := readItems fuel (depth - 1) true at_.step
        (.array items cut ⟨at_.mark, (after.getD at_).mark⟩, after)
    | '{' :: _ =>
      if depth = 0 then (.broken (at_.faultAhead .tooDeep), none)
      else
        let (members, cut, after) := readMembers fuel (depth - 1) true at_.step
        (.object members cut ⟨at_.mark, (after.getD at_).mark⟩, after)
    | c :: _ =>
      if c = '-' ∨ c.isDigit then
        match readNumber (c = '-') (if c = '-' then at_.step else at_) with
        | .ok (.int n, after) => (.int n ⟨at_.mark, after.mark⟩, some after)
        | .ok (.number x, after) => (.number x ⟨at_.mark, after.mark⟩, some after)
        | .error fault => (.broken fault, none)
      else (.broken (at_.faultAhead .expectedValue), none)

/-- Reads the rest of a list: its items, where it is cut off, and where it ended. -/
def readItems : Nat → Nat → Bool → Cursor → List Node × Option Malformation × Option Cursor
  | 0, _, _, at_ => ([], some (at_.faultAhead .endInList), none)
  | fuel + 1, depth, first, start =>
    let at_ := start.skipBlanks
    let item (start : Cursor) :=
      match readValue fuel depth start with
      | (node, some after) =>
        let (items, cut, stop) := readItems fuel depth false after
        (node :: items, cut, stop)
      | (node, none) => ([node], none, none)
    match at_.rest with
    | [] => ([], some (at_.faultAhead .endInList), none)
    | ']' :: _ => ([], none, some at_.step)
    | c :: _ =>
      if first then item at_
      else if c = ',' then
        let next := at_.step.skipBlanks
        match next.rest with
        | ']' :: _ => ([], some (next.faultAhead .trailingComma), none)
        | [] => ([], some (next.faultAhead .endInValue), none)
        | _ => item next
      else ([], some (at_.faultAhead .expectedListEnd), none)

/-- Reads the rest of an object: its members, where it is cut off, and where it ended. -/
def readMembers : Nat → Nat → Bool → Cursor →
    List (String × Mark × Node) × Option Malformation × Option Cursor
  | 0, _, _, at_ => ([], some (at_.faultAhead .endInObject), none)
  | fuel + 1, depth, first, start =>
    let at_ := start.skipBlanks
    let member (start : Cursor) :=
      match readString (start.rest.length) [] start.step with
      | .error fault => ([], some fault, none)
      | .ok (key, behind) =>
        let colon := behind.skipBlanks
        match colon.rest with
        | ':' :: _ =>
          match readValue fuel depth colon.step with
          | (node, some after) =>
            let (members, cut, stop) := readMembers fuel depth false after
            ((key, colon.mark, node) :: members, cut, stop)
          | (node, none) => ([(key, colon.mark, node)], none, none)
        | [] => ([(key, colon.mark, .broken (colon.faultAhead .endInObject))], none, none)
        | _ => ([(key, colon.mark, .broken (colon.faultAhead .expectedColon))], none, none)
    match at_.rest with
    | [] => ([], some (at_.faultAhead .endInObject), none)
    | '}' :: _ => ([], none, some at_.step)
    | c :: _ =>
      if first then
        if c = '"' then member at_ else ([], some (at_.faultAhead .keyNotString), none)
      else if c = ',' then
        let next := at_.step.skipBlanks
        match next.rest with
        | '"' :: _ => member next
        | '}' :: _ => ([], some (next.faultAhead .trailingComma), none)
        | [] => ([], some (next.faultAhead .endInValue), none)
        | _ => ([], some (next.faultAhead .keyNotString), none)
      else ([], some (at_.faultAhead .expectedObjectEnd), none)

end

/-- Reads a text: its value, and what is wrong with the text behind it. -/
def read (s : String) : Node × Option Malformation :=
  match readValue (2 * s.length + 2) depthLimit (.ofString s) with
  | (node, none) => (node, none)
  | (node, some after) =>
    let stop := after.skipBlanks
    (node, if stop.rest.isEmpty then none else some (stop.faultAhead .trailingText))

/-! ## Decoding -/

/-- Why a text does not hold what is asked of it: it is malformed, or it holds something else. -/
inductive Unreadable where
  | malformed (fault : Malformation)
  | mismatch (reason : String) (mark : Mark)
  deriving Repr, DecidableEq

/-- The wording without the place. -/
def Unreadable.reason : Unreadable → String
  | malformed fault => fault.cause.message
  | mismatch reason _ => reason

/-- The place of the complaint. -/
def Unreadable.mark : Unreadable → Mark
  | malformed fault => fault.mark
  | mismatch _ mark => mark

/-- The wording with the place. -/
def Unreadable.message (u : Unreadable) : String :=
  u.reason ++ " at line " ++ toString u.mark.line ++ " column " ++ toString u.mark.column

/-- What a node holds, and where a complaint about that points. -/
def Node.describe : Node → String × Mark
  | .null span => ("null", span.stop)
  | .bool b span => ("boolean \x60" ++ (if b then "true" else "false") ++ "\x60", span.stop)
  | .int n span => ("integer \x60" ++ toString n ++ "\x60", span.stop)
  | .number x span => ("floating point \x60" ++ Layout.data.text x ++ "\x60", span.stop)
  | .text s span => ("string " ++ Text.quoted s, span.stop)
  | .array _ _ span => ("sequence", span.start)
  | .object _ _ span => ("map", span.start)
  | .broken fault => ("", fault.mark)

/-- The complaint that a node is not what was expected. -/
def Node.mismatch (node : Node) (expected : String) : Unreadable :=
  match node with
  | .broken fault => .malformed fault
  | _ => .mismatch ("invalid type: " ++ node.describe.1 ++ ", expected " ++ expected)
      node.describe.2

mutual

/-- The value that a node holds, if reading did not stop inside it. Integers beyond 64 signed bits
are numbers; of repeated members the last counts. -/
def Node.value : Node → Except Malformation Value
  | .null _ => .ok .nil
  | .bool b _ => .ok (.bool b)
  | .int n _ =>
    .ok (if -0x8000000000000000 ≤ n ∧ n < 0x8000000000000000 then .int (Int64.ofInt n)
      else .number (Float.ofInt n))
  | .number x _ => .ok (.number x)
  | .text s _ => .ok (.text s)
  | .array items cut _ => do
    let items ← itemValues items
    match cut with
    | some fault => .error fault
    | none => .ok (.list items)
  | .object members cut _ => do
    let fields ← memberValues members
    match cut with
    | some fault => .error fault
    | none => .ok (.record (Fields.sorted fields))
  | .broken fault => .error fault

/-- The values of the items of a list. -/
def itemValues : List Node → Except Malformation (List Value)
  | [] => .ok []
  | node :: rest => do
    let v ← node.value
    let vs ← itemValues rest
    .ok (v :: vs)

/-- The named values of the members of an object. -/
def memberValues : List (String × Mark × Node) → Except Malformation (List (String × Value))
  | [] => .ok []
  | (key, _, node) :: rest => do
    let v ← node.value
    let vs ← memberValues rest
    .ok ((key, v) :: vs)

end

/-- Decodes a text as a whole: what follows the value must be blank. -/
def decode {α : Type} (s : String) (decoder : Node → Except Unreadable α) : Except Unreadable α :=
  match read s with
  | (node, after) => do
    let result ← decoder node
    match after with
    | some fault => .error (.malformed fault)
    | none => .ok result

/-- The value that a text holds. -/
def decodeValue (s : String) : Except Unreadable Value :=
  decode s (fun node => node.value.mapError .malformed)

end Json

end Gamebook
