import Gamebook.Markup.Input

/-!
# Scalars

Reading the four kinds of scalars: block scalars after `|` and `>`, quoted scalars, and plain ones.
Line breaks inside are folded as the kind demands.
-/

namespace Gamebook

namespace Markup

/-- What may stand between two lines of a scalar: the first break, and the further ones. -/
structure Gap where
  first : List Char := []
  further : List Char := []

/-- A folded gap: a single line feed is a blank, more of them lose the first. -/
def Gap.folded (gap : Gap) : List Char :=
  match gap.first with
  | '\n' :: _ => if gap.further.isEmpty then [' '] else gap.further
  | _ => gap.first ++ gap.further

/-! ## Block scalars -/

/-- Moves over indentation and empty lines. An unknown indentation (`0`) is found out: the deepest
blank line or first text decides, but it is deeper than the surrounding block. Gives the
indentation, the breaks passed, and the end of the last empty line. -/
def blockBreaks (parent : Int) (start : Mark) :
    Nat → Nat → Nat → List Char → Mark → Scan (Nat × List Char × Mark)
  | 0, indent, _, breaks, stop => pure (indent, breaks, stop)
  | fuel + 1, indent, deepest, breaks, stop => do
    let input ← get
    let room := if indent = 0 then input.rest.length else indent - input.mark.column
    let blanks := (input.rest.take room).takeWhile (· = ' ')
    let column := input.mark.column + blanks.length
    set ({ rest := input.rest.drop blanks.length,
           mark := { input.mark with index := input.mark.index + blanks.length, column := column }
         } : Input)
    let deepest := max deepest column
    let input ← get
    if (indent = 0 || column < indent) && input.has 0 '\t' then
      complain "while scanning a block scalar" start
        "found a tab character where an indentation space is expected"
    else if input.onBreak then
      skipBreak
      let stop := (← get).mark
      blockBreaks parent start fuel indent deepest (breaks ++ input.breakText) stop
    else
      let found := max (max deepest (parent + 1).toNat) 1
      pure (if indent = 0 then found else indent, breaks, stop)

/-- Reads the lines of a block scalar at its indentation. -/
def blockLines (literal : Bool) (parent : Int) (start : Mark) (indent : Nat) :
    Nat → List Char → Gap → Bool → Mark → Scan (List Char × Gap × Mark)
  | 0, text, gap, _, stop => pure (text, gap, stop)
  | fuel + 1, text, gap, leadingBlank, stop => do
    let input ← get
    if input.mark.column ≠ indent || input.rest.isEmpty then pure (text, gap, stop)
    else
      let blank := input.onSpace
      let folds := !literal && gap.first.head? = some '\n' && !leadingBlank && !blank
      let joint :=
        if folds then (if gap.further.isEmpty then [' '] else []) ++ gap.further
        else gap.first ++ gap.further
      let line ← takeWhile (fun c => !isBreak c)
      let first := (← get).breakText
      if (← get).onBreak then skipBreak
      let (_, further, stop) ←
        blockBreaks parent start ((← get).rest.length + 1) indent 0 [] (← get).mark
      blockLines literal parent start indent fuel (text ++ joint ++ line) ⟨first, further⟩ blank
        stop

/-- The header of a block scalar: whether the last breaks are kept (`true`), dropped (`false`) or
clipped, and the indentation if it is given. -/
def blockHeader (start : Mark) : Scan (Option Bool × Option Nat) := do
  let context := "while scanning a block scalar"
  let chomping : Scan (Option Bool) := do
    let input ← get
    if input.has 0 '+' then
      skip
      pure (some true)
    else if input.has 0 '-' then
      skip
      pure (some false)
    else pure none
  let indentation : Scan (Option Nat) := do
    match (← get).at? 0 with
    | some c =>
      if c = '0' then complain context start "found an indentation indicator equal to 0"
      else if c.isDigit then
        skip
        pure (some (c.toNat - 48))
      else pure none
    | none => pure none
  let before ← chomping
  let indent ← indentation
  let after ← if before.isNone && indent.isSome then chomping else pure none
  endLine context start
  pure (before.or after, indent)

/-- Reads a block scalar from its indicator on, inside a block with the given indentation. -/
def blockScalar (literal : Bool) (parent : Int) : Scan Token := do
  let start := (← get).mark
  skip
  let (chomping, given) ← blockHeader start
  let indent := match given with
    | some n => if 0 ≤ parent then parent.toNat + n else n
    | none => 0
  let fuel := (← get).rest.length + 1
  let (indent, further, stop) ← blockBreaks parent start fuel indent 0 [] (← get).mark
  let (text, gap, stop) ← blockLines literal parent start indent fuel [] ⟨[], further⟩ false stop
  let kept := match chomping with
    | some true => gap.first ++ gap.further
    | some false => []
    | none => gap.first
  let style := if literal then ScalarStyle.literal else .folded
  pure ⟨.scalar (String.ofList (text ++ kept)) style, start, stop⟩

/-! ## Gaps in flow scalars -/

/-- Moves over blanks and breaks between two words. Gives the blanks if there was no break, and
else the breaks. `tabFault` is asked at each blank whether it may stand there. -/
def flowGap (tabFault : Input → Bool) (start : Mark) :
    Nat → Bool → List Char → Gap → Scan (Bool × List Char × Gap)
  | 0, broken, blanks, gap => pure (broken, blanks, gap)
  | fuel + 1, broken, blanks, gap => do
    let input ← get
    if input.onSpace then
      if broken && tabFault input then
        complain "while scanning a plain scalar" start
          "found a tab character that violates indentation"
      else
        skip
        let blanks := if broken then blanks else blanks ++ input.rest.take 1
        flowGap tabFault start fuel broken blanks gap
    else if input.onBreak then
      skipBreak
      if broken then
        flowGap tabFault start fuel true [] { gap with further := gap.further ++ input.breakText }
      else flowGap tabFault start fuel true [] { gap with first := input.breakText }
    else pure (broken, blanks, gap)

/-! ## Quoted scalars -/

private def hexValue? (c : Char) : Option Nat :=
  if c.isDigit then some (c.toNat - 48)
  else if 'a' ≤ c ∧ c ≤ 'f' then some (c.toNat - 87)
  else if 'A' ≤ c ∧ c ≤ 'F' then some (c.toNat - 55)
  else none

/-- The characters that a letter behind a backslash stands for. -/
def simpleEscape? (c : Char) : Option Char :=
  match c with
  | '0' => some '\x00'
  | 'a' => some '\x07'
  | 'b' => some '\x08'
  | 't' => some '\t'
  | '\t' => some '\t'
  | 'n' => some '\n'
  | 'v' => some '\x0b'
  | 'f' => some '\x0c'
  | 'r' => some '\r'
  | 'e' => some '\x1b'
  | ' ' => some ' '
  | '"' => some '"'
  | '/' => some '/'
  | '\\' => some '\\'
  | 'N' => some (Char.ofNat 0x85)
  | '_' => some (Char.ofNat 0xa0)
  | 'L' => some (Char.ofNat 0x2028)
  | 'P' => some (Char.ofNat 0x2029)
  | _ => none

/-- Reads an escape from its backslash on. -/
def escape (start : Mark) : Scan Char := do
  let context := "while parsing a quoted scalar"
  let input ← get
  let unknown : Scan Char := complain context start "found unknown escape character"
  match input.at? 1 with
  | none => unknown
  | some c =>
    match simpleEscape? c with
    | some decoded =>
      skip
      skip
      pure decoded
    | none =>
      let size := if c = 'x' then 2 else if c = 'u' then 4 else if c = 'U' then 8 else 0
      if size = 0 then unknown
      else
        skip
        skip
        let digits := (← get).rest.take size
        let values := digits.filterMap hexValue?
        if values.length ≠ size then
          complain context start "did not find expected hexdecimal number"
        else
          let n := values.foldl (fun acc v => acc * 16 + v) 0
          if (0xd800 ≤ n && n ≤ 0xdfff) || 0x10ffff < n then
            complain context start "found invalid Unicode character escape code"
          else
            modify fun input => digits.foldl (fun input _ => input.skip) input
            pure (Char.ofNat n)

/-- Reads characters up to a gap or the closing quote. Gives whether an escaped line break ended
the word. -/
def quotedWord (single : Bool) (start : Mark) : Nat → List Char → Scan (List Char × Bool)
  | 0, text => pure (text, false)
  | fuel + 1, text => do
    let input ← get
    match input.rest with
    | [] => pure (text, false)
    | c :: _ =>
      if isSpace c || isBreak c then pure (text, false)
      else if single && c = '\'' then
        if input.has 1 '\'' then
          skip
          skip
          quotedWord single start fuel (text ++ ['\''])
        else pure (text, false)
      else if !single && c = '"' then pure (text, false)
      else if !single && c = '\\' then
        if (input.skip).onBreak then
          skip
          skipBreak
          pure (text, true)
        else
          let decoded ← escape start
          quotedWord single start fuel (text ++ [decoded])
      else
        skip
        quotedWord single start fuel (text ++ [c])

/-- Reads the inside of a quoted scalar up to its closing quote. -/
def quotedText (single : Bool) (start : Mark) : Nat → List Char → Scan (List Char)
  | 0, text => pure text
  | fuel + 1, text => do
    let context := "while scanning a quoted scalar"
    let input ← get
    if input.documentMark then complain context start "found unexpected document indicator"
    else if input.rest.isEmpty then complain context start "found unexpected end of stream"
    else
      let (text, escapedBreak) ← quotedWord single start input.rest.length text
      let input ← get
      if input.has 0 (if single then '\'' else '"') then pure text
      else
        let (broken, blanks, gap) ←
          flowGap (fun _ => false) start (input.rest.length + 1) escapedBreak [] {}
        quotedText single start fuel (text ++ if broken then gap.folded else blanks)

/-- Reads a quoted scalar from its opening quote on. -/
def quotedScalar (single : Bool) : Scan Token := do
  let start := (← get).mark
  skip
  let text ← quotedText single start ((← get).rest.length + 1) []
  skip
  let style := if single then ScalarStyle.singleQuoted else .doubleQuoted
  pure ⟨.scalar (String.ofList text) style, start, (← get).mark⟩

/-! ## Plain scalars -/

private def isFlowMark (c : Char) : Bool :=
  c = ',' || c = '[' || c = ']' || c = '{' || c = '}'

/-- Reads characters of a plain scalar up to a gap or an indicator that ends it. -/
def plainWord (inFlow : Bool) (start : Mark) : Nat → List Char → Scan (List Char)
  | 0, text => pure text
  | fuel + 1, text => do
    let input ← get
    match input.rest with
    | [] => pure text
    | c :: _ =>
      if isSpace c || isBreak c then pure text
      else if inFlow && c = ':' && (input.at? 1).any (fun d => isFlowMark d || d = '?') then
        complain "while scanning a plain scalar" start "found unexpected ':'"
      else if (c = ':' && input.gapAt 1) || (inFlow && isFlowMark c) then pure text
      else
        skip
        plainWord inFlow start fuel (text ++ [c])

/-- Reads the words of a plain scalar. Gives its text, its end, and whether a line break follows
it. -/
def plainText (inFlow : Bool) (indent : Int) (start : Mark) :
    Nat → List Char → List Char → Bool → Mark → Scan (List Char × Mark × Bool)
  | 0, text, _, broken, stop => pure (text, stop, broken)
  | fuel + 1, text, joint, broken, stop => do
    let input ← get
    if input.documentMark || input.has 0 '#' then pure (text, stop, broken)
    else
      let word ← plainWord inFlow start input.rest.length []
      let here ← get
      let (text, stop, broken, joint) :=
        if word.isEmpty then (text, stop, broken, joint)
        else (text ++ joint ++ word, here.mark, false, [])
      if !(here.onSpace || here.onBreak) then pure (text, stop, broken)
      else
        let tabFault (i : Input) : Bool := (i.mark.column : Int) < indent && i.has 0 '\t'
        let (brokenHere, blanks, gap) ← flowGap tabFault start (here.rest.length + 1) broken [] {}
        let joint := if brokenHere then gap.folded else joint ++ blanks
        let after ← get
        if !inFlow && (after.mark.column : Int) < indent then pure (text, stop, brokenHere)
        else plainText inFlow indent start fuel text joint brokenHere stop

/-- Reads a plain scalar inside a block with the given indentation. Gives also whether a line break
follows it. -/
def plainScalar (inFlow : Bool) (parent : Int) : Scan (Token × Bool) := do
  let input ← get
  let (text, stop, broken) ←
    plainText inFlow (parent + 1) input.mark (input.rest.length + 1) [] [] false input.mark
  pure (⟨.scalar (String.ofList text) .plain, input.mark, stop⟩, broken)

end Markup

end Gamebook
