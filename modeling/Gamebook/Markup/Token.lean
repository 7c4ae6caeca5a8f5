/-!
# Tokens of markup

The pieces that a markup document is made of before its structure is known, the places they stand
at, and the complaints that reading them may end in.
-/

namespace Gamebook

namespace Markup

/-- A position in a text: how many characters, line feeds, and characters of the line precede
it. -/
structure Mark where
  index : Nat := 0
  line : Nat := 0
  column : Nat := 0
  deriving Repr, DecidableEq, Inhabited

/-- A complaint about a text: what is wrong and where, and what was being read and since where. -/
structure Complaint where
  problem : String
  mark : Mark
  context : Option String := none
  contextMark : Mark := {}
  deriving Repr, DecidableEq

/-- How messages write a position. -/
def Mark.text (mark : Mark) : String :=
  "line " ++ toString (mark.line + 1) ++ " column " ++ toString (mark.column + 1)

/-- The wording of a complaint. -/
def Complaint.message (c : Complaint) : String :=
  let atStart (m : Mark) : Bool := m.line = 0 && m.column = 0
  let place := if atStart c.mark then "" else " at " ++ c.mark.text
  let elsewhere := c.contextMark.line ≠ c.mark.line || c.contextMark.column ≠ c.mark.column
  let since := if !atStart c.contextMark && elsewhere then " at " ++ c.contextMark.text else ""
  c.problem ++ place ++ (match c.context with
    | some context => ", " ++ context ++ since
    | none => "")

/-- How a scalar is written. -/
inductive ScalarStyle where
  | plain | singleQuoted | doubleQuoted | literal | folded
  deriving Repr, DecidableEq

/-- What a token is. -/
inductive TokenKind where
  | streamStart
  | streamEnd
  | version (major minor : Nat)
  | tagDirective (handle stem : String)
  | documentStart
  | documentEnd
  | blockSequenceStart
  | blockMappingStart
  | blockEnd
  | flowSequenceStart
  | flowSequenceEnd
  | flowMappingStart
  | flowMappingEnd
  | blockEntry
  | flowEntry
  | key
  | value
  | alias (name : String)
  | anchor (name : String)
  | tag (handle suffix : String)
  | scalar (text : String) (style : ScalarStyle)
  deriving Repr, DecidableEq

/-- A token with its two ends. -/
structure Token where
  kind : TokenKind
  start : Mark
  stop : Mark
  deriving Repr, DecidableEq

end Markup

end Gamebook
