import Gamebook.Script.Library.Reply
import Gamebook.Script.Operators
import Gamebook.Text.Blank

/-!
# Functions on texts

Positions count characters, from zero; negative ones count from the end.
-/

namespace Gamebook

namespace Script

namespace Library

/-- The capital letter of a letter of the Latin, Greek and Cyrillic alphabets. -/
def upperChar (c : Char) : List Char :=
  let n := c.toNat
  if c.isLower then [c.toUpper]
  else if n = 0xdf then ['S', 'S']
  else if n = 0xff then [Char.ofNat 0x178]
  else if (0xe0 ≤ n && n ≤ 0xfe && n ≠ 0xf7) || (0x3b1 ≤ n && n ≤ 0x3c9 && n ≠ 0x3c2)
      || (0x430 ≤ n && n ≤ 0x44f) then [Char.ofNat (n - 32)]
  else if n = 0x3c2 then [Char.ofNat 0x3a3]
  else if 0x450 ≤ n && n ≤ 0x45f then [Char.ofNat (n - 80)]
  else if (0x100 ≤ n && n ≤ 0x137 && n ≠ 0x131) || (0x14a ≤ n && n ≤ 0x177) then
    [Char.ofNat (n / 2 * 2)]
  else if (0x139 ≤ n && n ≤ 0x148) || (0x179 ≤ n && n ≤ 0x17e) then
    [Char.ofNat ((n - 1) / 2 * 2 + 1)]
  else [c]

/-- The small letter of a letter of the Latin, Greek and Cyrillic alphabets. -/
def lowerChar (c : Char) : Char :=
  let n := c.toNat
  if c.isUpper then c.toLower
  else if (0xc0 ≤ n && n ≤ 0xde && n ≠ 0xd7) || (0x391 ≤ n && n ≤ 0x3a9)
      || (0x410 ≤ n && n ≤ 0x42f) then Char.ofNat (n + 32)
  else if 0x400 ≤ n && n ≤ 0x40f then Char.ofNat (n + 80)
  else if (0x100 ≤ n && n ≤ 0x137 && n ≠ 0x130) || (0x14a ≤ n && n ≤ 0x177) then
    Char.ofNat (n / 2 * 2 + 1)
  else if (0x139 ≤ n && n ≤ 0x148) || (0x179 ≤ n && n ≤ 0x17e) then
    Char.ofNat ((n + 1) / 2 * 2)
  else c

/-- Where a piece first occurs, counted from `at_`. -/
def indexOfChars (piece : List Char) : Nat → List Char → Option Nat
  | at_, [] => if piece.isEmpty then some at_ else none
  | at_, c :: rest =>
    if piece.isPrefixOf (c :: rest) then some at_ else indexOfChars piece (at_ + 1) rest

/-- The position as scripts see it: minus one for nowhere. -/
def positionItem : Option Nat → Item
  | some n => size n
  | none => .int (-1)

/-- The text with every occurrence of a piece replaced. -/
def replaceChars (piece new : List Char) : Nat → List Char → List Char
  | 0, cs => cs
  | _ + 1, [] => []
  | fuel + 1, c :: rest =>
    if piece.isPrefixOf (c :: rest) then
      new ++ replaceChars piece new fuel ((c :: rest).drop piece.length)
    else c :: replaceChars piece new fuel rest

/-- The text with every occurrence of a piece replaced; an empty piece occurs between all
characters. -/
def replaced (s piece new : String) : String :=
  if piece.isEmpty then
    String.ofList (new.toList ++ s.toList.flatMap (fun c => c :: new.toList))
  else String.ofList (replaceChars piece.toList new.toList (s.length + 1) s.toList)

/-- The pieces between the occurrences of a separator that is not empty. -/
def splitChars (separator : List Char) : Nat → List Char → List Char → List (List Char)
  | 0, taken, cs => [taken.reverse ++ cs]
  | _ + 1, taken, [] => [taken.reverse]
  | fuel + 1, taken, c :: rest =>
    if separator.isPrefixOf (c :: rest) then
      taken.reverse :: splitChars separator fuel [] ((c :: rest).drop separator.length)
    else splitChars separator fuel (c :: taken) rest

/-- The pieces between the occurrences of a separator. -/
def split (s separator : String) : List Item :=
  if separator.isEmpty then
    [.text ""] ++ s.toList.map (fun c => .text (String.singleton c)) ++ [.text ""]
  else
    (splitChars separator.toList (s.length + 1) [] s.toList).map
      (fun cs => .text (String.ofList cs))

/-- A list filled up to a length by repeating a piece. -/
def padded {α : Type} (length : Int) (piece items : List α) : List α :=
  if piece.isEmpty then items
  else
    let missing := length.toNat - items.length
    let rounds := (missing + piece.length - 1) / piece.length
    items ++ ((List.replicate rounds piece).flatten).take missing

/-- Functions on a text alone. -/
def onText (name : String) (s : String) : Answer :=
  let chars := s.toList
  match name with
  | "len" => gives (size chars.length)
  | "bytes" => gives (size s.utf8ByteSize)
  | "is_empty" => gives (.bool chars.isEmpty)
  | "to_upper" => gives (.text (String.ofList (chars.flatMap upperChar)))
  | "to_lower" => gives (.text (String.ofList (chars.map lowerChar)))
  | "make_upper" => changes (.text (String.ofList (chars.flatMap upperChar)))
  | "make_lower" => changes (.text (String.ofList (chars.map lowerChar)))
  | "trim" => changes (.text (Text.trim s))
  | "clear" => changes (.text "")
  | "chars" => gives (.array (chars.map .char))
  | "to_chars" => gives (.array (chars.map .char))
  | "split" => gives (.array ((Text.words s).map .text))
  | "pop" =>
    match chars.reverse with
    | [] => gives .unit
    | last :: rest => changes (.text (String.ofList rest.reverse)) (.char last)
  | _ => none

/-- Functions on a text and another item. -/
def onTextAnd (name : String) (s : String) (b : Item) : Answer :=
  let chars := s.toList
  match Operators.asText? b with
  | some t =>
    match name with
    | "contains" => gives (.bool (indexOfChars t.toList 0 chars).isSome)
    | "starts_with" => gives (.bool (t.toList.isPrefixOf chars))
    | "ends_with" => gives (.bool (t.toList.isSuffixOf chars))
    | "index_of" => gives (positionItem (indexOfChars t.toList 0 chars))
    | "split" => gives (.array (split s t))
    | "remove" => changes (.text (Operators.withoutText s t))
    | "append" => changes (.text (s ++ t))
    | _ => none
  | none =>
    match name, b with
    | "append", b => changes (.text (s ++ b.toText))
    | "sub_string", .int start => gives (.text (String.ofList (slice chars start.toInt s.length)))
    | "crop", .int start => changes (.text (String.ofList (slice chars start.toInt s.length)))
    | "truncate", .int n => changes (.text (String.ofList (chars.take n.toInt.toNat)))
    | "pop", .int n =>
      let cut := chars.length - n.toInt.toNat
      changes (.text (String.ofList (chars.take cut))) (.text (String.ofList (chars.drop cut)))
    | "get", .int i =>
      gives (((position? chars.length i.toInt).bind (chars[·]?)).elim .unit .char)
    | "split", .int i =>
      let cut := position chars.length i.toInt
      gives (.array
        [.text (String.ofList (chars.take cut)), .text (String.ofList (chars.drop cut))])
    | _, _ => none

/-- Functions whose first argument is a text or a character. -/
def texts (name : String) (args : List Item) : Answer :=
  match args with
  | [.text s] => onText name s
  | [.char c] =>
    match name with
    | "to_upper" =>
      match upperChar c with
      | [d] => gives (.char d)
      | _ => gives (.char c)
    | "to_lower" => gives (.char (lowerChar c))
    | "to_int" => gives (size c.toNat)
    | _ => none
  | [.text s, b] => onTextAnd name s b
  | [.text s, .int start, .int count] =>
    match name with
    | "sub_string" => gives (.text (String.ofList (slice s.toList start.toInt count.toInt)))
    | "crop" => changes (.text (String.ofList (slice s.toList start.toInt count.toInt)))
    | _ => none
  | [.text s, .int n, c] =>
    match name, c, Operators.asText? c with
    | "pad", _, some t => changes (.text (String.ofList (padded n.toInt t.toList s.toList)))
    | "set", .char d, _ =>
      match position? s.length n.toInt with
      | some i => changes (.text (String.ofList (s.toList.set i d)))
      | none => gives .unit
    | _, _, _ => none
  | [.text s, a, b] =>
    match name, Operators.asText? a, Operators.asText? b, b with
    | "replace", some t, some u, _ => changes (.text (replaced s t u))
    | "index_of", some t, _, .int start =>
      let begins := position s.length start.toInt
      gives (positionItem (indexOfChars t.toList begins (s.toList.drop begins)))
    | _, _, _, _ => none
  | _ => none

end Library

end Script

end Gamebook
