/-!
# Blank characters

The characters of the Unicode property White_Space, and the cuts that follow them: trimming,
splitting into words, splitting into lines.
-/

namespace Gamebook

/-- The character has the Unicode property White_Space. -/
def isBlankChar (c : Char) : Bool :=
  let n := c.toNat
  (9 ≤ n && n ≤ 13) || n == 32 || n == 0x85 || n == 0xa0 || n == 0x1680
    || (0x2000 ≤ n && n ≤ 0x200a) || n == 0x2028 || n == 0x2029 || n == 0x202f
    || n == 0x205f || n == 0x3000

namespace Text

/-- The characters without those of the class at their end. -/
def dropEndWhile (p : Char → Bool) (cs : List Char) : List Char :=
  (cs.reverse.dropWhile p).reverse

/-- The text without blanks at its end. -/
def trimEnd (s : String) : String := String.ofList (dropEndWhile isBlankChar s.toList)

/-- The text without blanks at its start and end. -/
def trim (s : String) : String :=
  String.ofList (dropEndWhile isBlankChar (s.toList.dropWhile isBlankChar))

/-- The text holds nothing but blanks. -/
def isBlank (s : String) : Bool := s.toList.all isBlankChar

/-- `none` for a blank text. -/
def nonBlank (s : String) : Option String := if isBlank s then none else some s

/-- Cuts at every character of the class; empty pieces are kept. -/
def splitAt (p : Char → Bool) : List Char → List (List Char)
  | [] => [[]]
  | c :: rest =>
    if p c then [] :: splitAt p rest
    else match splitAt p rest with
      | piece :: pieces => (c :: piece) :: pieces
      | [] => [[c]]

/-- The maximal runs of characters that are not blank. -/
def words (s : String) : List String :=
  ((splitAt isBlankChar s.toList).filter (fun w => !w.isEmpty)).map String.ofList

/-- The characters without a carriage return at their end. -/
def dropReturn (cs : List Char) : List Char :=
  match cs.reverse with
  | '\r' :: rest => rest.reverse
  | _ => cs

/-- The lines of a text: cut at line feeds, a carriage return before one belongs to it, and a line
feed at the very end starts no further line. -/
def lines (s : String) : List String :=
  let pieces := splitAt (· == '\n') s.toList
  let ended := pieces.dropLast.map (fun p => String.ofList (dropReturn p))
  match pieces.getLast? with
  | some [] => ended
  | some last => ended ++ [String.ofList last]
  | none => ended

/-- The text without the given start, if it has it. -/
def afterStart? (start s : String) : Option String :=
  let rec go : List Char → List Char → Option (List Char)
    | [], rest => some rest
    | _ :: _, [] => none
    | a :: as, b :: bs => if a = b then go as bs else none
  (go start.toList s.toList).map String.ofList

/-- `text` begins with `start`. -/
def startsWith (start s : String) : Bool := (afterStart? start s).isSome

end Text

end Gamebook
