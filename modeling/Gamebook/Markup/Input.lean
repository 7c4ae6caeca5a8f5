import Gamebook.Markup.Token

/-!
# Reading markup character by character

The rest of a text with the position in front of it, the classes of characters that the grammar
speaks of, and the steps that all readers of tokens share.
-/

namespace Gamebook

namespace Markup

/-- The rest of a text and the position in front of it. -/
structure Input where
  rest : List Char
  mark : Mark := {}

/-- A step of reading: it may move on, or end in a complaint. -/
abbrev Scan := StateT Input (Except Complaint)

/-! ## Classes of characters -/

/-- A line break. -/
def isBreak (c : Char) : Bool :=
  c = '\r' || c = '\n' || c.toNat = 0x85 || c.toNat = 0x2028 || c.toNat = 0x2029

/-- A space or a tab. -/
def isSpace (c : Char) : Bool := c = ' ' || c = '\t'

/-- A character of names of anchors and handles. -/
def isWord (c : Char) : Bool := c.isAlphanum || c = '_' || c = '-'

/-- A character that documents may hold. -/
def isPrintable (c : Char) : Bool :=
  let n := c.toNat
  n = 9 || n = 10 || n = 13 || (0x20 ≤ n && n ≤ 0x7e) || n = 0x85 || (0xa0 ≤ n && n ≤ 0xd7ff)
    || (0xe000 ≤ n && n ≤ 0xfffd && n ≠ 0xfeff) || 0x10000 ≤ n

namespace Input

/-- The character at an offset. -/
def at? (input : Input) (n : Nat) : Option Char := input.rest[n]?

/-- The character at an offset is `c`. -/
def has (input : Input) (n : Nat) (c : Char) : Bool := input.at? n == some c

/-- A space, a tab or a line break stands at an offset, or the text ends there. -/
def gapAt (input : Input) (n : Nat) : Bool :=
  match input.at? n with
  | none => true
  | some c => isSpace c || isBreak c

/-- A line break stands here, or the text ends. -/
def lineEnds (input : Input) : Bool :=
  match input.rest with
  | [] => true
  | c :: _ => isBreak c

/-- A space or a tab stands here. -/
def onSpace (input : Input) : Bool :=
  match input.rest with
  | [] => false
  | c :: _ => isSpace c

/-- A line break stands here. -/
def onBreak (input : Input) : Bool :=
  match input.rest with
  | [] => false
  | c :: _ => isBreak c

/-- Behind one character of a line. -/
def skip (input : Input) : Input :=
  match input.rest with
  | [] => input
  | _ :: rest =>
    ⟨rest, { input.mark with index := input.mark.index + 1, column := input.mark.column + 1 }⟩

/-- Behind one line break; a return and a feed are one. -/
def skipBreak (input : Input) : Input :=
  match input.rest with
  | '\r' :: '\n' :: rest => ⟨rest, ⟨input.mark.index + 2, input.mark.line + 1, 0⟩⟩
  | _ :: rest => ⟨rest, ⟨input.mark.index + 1, input.mark.line + 1, 0⟩⟩
  | [] => input

/-- What a line break means inside a scalar. -/
def breakText (input : Input) : List Char :=
  match input.rest with
  | c :: _ => if c.toNat = 0x2028 ∨ c.toNat = 0x2029 then [c] else if isBreak c then ['\n'] else []
  | [] => []

/-- A line of three equal marks `c`, alone or followed by a gap, stands here. -/
def tripleMark (input : Input) (c : Char) : Bool :=
  input.mark.column = 0 && input.has 0 c && input.has 1 c && input.has 2 c && input.gapAt 3

/-- A document begins or ends here. -/
def documentMark (input : Input) : Bool := input.tripleMark '-' || input.tripleMark '.'

/-- Splits off the characters of a class, which holds no line breaks. -/
def spanWhile (input : Input) (p : Char → Bool) : List Char × Input :=
  go input.mark input.rest
where
  go (mark : Mark) : List Char → List Char × Input
    | [] => ([], ⟨[], mark⟩)
    | c :: rest =>
      if p c then
        let (taken, after) :=
          go { mark with index := mark.index + 1, column := mark.column + 1 } rest
        (c :: taken, after)
      else ([], ⟨c :: rest, mark⟩)

end Input

/-! ## Steps -/

/-- Moves behind one character of a line. -/
def skip : Scan Unit := modify Input.skip

/-- Moves behind one line break. -/
def skipBreak : Scan Unit := modify Input.skipBreak

/-- Moves behind the characters of a class and gives them. -/
def takeWhile (p : Char → Bool) : Scan (List Char) := do
  let (taken, after) := (← get).spanWhile p
  set after
  pure taken

/-- Complains about the character here. -/
def complain {α : Type} (context : String) (since : Mark) (problem : String) : Scan α := do
  let input ← get
  throw ⟨problem, input.mark, some context, since⟩

/-- Moves behind blanks and a comment to the end of the line, and then behind the line break. -/
def endLine (context : String) (since : Mark) : Scan Unit := do
  let _ ← takeWhile isSpace
  if (← get).has 0 '#' then
    let _ ← takeWhile (fun c => !isBreak c)
  if !(← get).lineEnds then complain context since "did not find expected comment or line break"
  if (← get).onBreak then skipBreak

end Markup

end Gamebook
