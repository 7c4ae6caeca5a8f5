import Gamebook.Markup.Scalar

/-!
# From text to tokens

Cuts a markup document into tokens. Indentation opens and closes blocks, and a token that turns out
to be a key is announced after the fact: places where a key may begin are remembered until a colon
confirms them or the line ends.

* `Token.ofText` : the tokens of a text, up to the first complaint. A token that may still turn out
  to be a key when a complaint comes is not given.
-/

namespace Gamebook

namespace Markup

/-- A place where a key may have begun. -/
structure KeyPlace where
  /-- The block cannot go on unless it is a key. -/
  required : Bool
  /-- The number of tokens before it. -/
  number : Nat
  mark : Mark

/-- What has been read so far, besides the position. -/
structure Progress where
  /-- Tokens read and not yet given. -/
  queue : List Token := []
  /-- The number of tokens given. -/
  given : Nat := 0
  /-- How many flow lists and records are open. -/
  flowDepth : Nat := 0
  /-- Where a key may have begun, for the innermost open flow level first. -/
  keyPlaces : List (Option KeyPlace) := [none]
  keyAllowed : Bool := true
  /-- The column of the innermost block. -/
  indent : Int := -1
  outerIndents : List Int := []
  started : Bool := false
  ended : Bool := false

/-- A step of cutting tokens. -/
abbrev Cut := StateT Progress Scan

namespace Cut

private def here : Cut Mark := do return (← (get : Scan Input)).mark

private def input : Cut Input := (get : Scan Input)

private def reject {α : Type} (problem : String) : Cut α := do
  throw (⟨problem, ← here, none, {}⟩ : Complaint)

private def push (token : Token) : Cut Unit :=
  modify fun p => { p with queue := p.queue ++ [token] }

private def pushHere (kind : TokenKind) : Cut Unit := do
  let mark ← here
  push ⟨kind, mark, mark⟩

/-! ## Keys -/

/-- Gives up places that can no longer be keys: those in earlier lines, and those too far back. -/
def dropStaleKeys : Cut Unit := do
  let mark ← here
  let places ← (← get).keyPlaces.mapM fun place => do
    match place with
    | some key =>
      if key.mark.line < mark.line || key.mark.index + 1024 < mark.index then
        if key.required then
          (complain "while scanning a simple key" key.mark "could not find expected ':'" :
            Scan Unit)
        pure none
      else pure (some key)
    | none => pure none
  modify fun p => { p with keyPlaces := places }

/-- Gives up the innermost place. -/
def dropKey : Cut Unit := do
  match (← get).keyPlaces with
  | some key :: outer =>
    if key.required then
      (complain "while scanning a simple key" key.mark "could not find expected ':'" : Scan Unit)
    modify fun p => { p with keyPlaces := none :: outer }
  | _ => pure ()

/-- Remembers this place, if a key may begin here. -/
def saveKey : Cut Unit := do
  let mark ← here
  let p ← get
  if p.keyAllowed then
    let required := p.flowDepth = 0 && p.indent = mark.column
    let number := p.given + p.queue.length
    dropKey
    modify fun p => { p with keyPlaces := some ⟨required, number, mark⟩ :: p.keyPlaces.drop 1 }

/-! ## Blocks -/

/-- Opens a block at a column, if it is deeper than the current one. The token goes to the given
number, or to the end. -/
def openBlock (column : Nat) (number : Option Nat) (kind : TokenKind) (mark : Mark) : Cut Unit := do
  let p ← get
  if p.flowDepth = 0 && p.indent < column then
    let token : Token := ⟨kind, mark, mark⟩
    let queue := match number with
      | some n => p.queue.insertIdx (n - p.given) token
      | none => p.queue ++ [token]
    set { p with indent := column, outerIndents := p.indent :: p.outerIndents, queue := queue }

/-- Closes the blocks that are deeper than a column. -/
def closeBlocks (column : Int) : Cut Unit := do
  let mark ← here
  modify fun p =>
    if p.flowDepth ≠ 0 then p
    else
      let rec close (p : Progress) : List Int → Progress
        | [] => p
        | outer :: rest =>
          if column < p.indent then
            close { p with
              queue := p.queue ++ [⟨.blockEnd, mark, mark⟩], indent := outer,
              outerIndents := rest } rest
          else p
      close p p.outerIndents

/-! ## Tokens -/

/-- Moves to the next token: over blanks, comments and line breaks. Behind a line break a key may
begin. Tabs do not indent. -/
def toNextToken : Nat → Cut Unit
  | 0 => pure ()
  | fuel + 1 => do
    let p ← get
    let tabs := p.flowDepth ≠ 0 || !p.keyAllowed
    let _ ← (takeWhile (fun c => c = ' ' || (tabs && c = '\t')) : Scan (List Char))
    if (← input).has 0 '#' then
      let _ ← (takeWhile (fun c => !isBreak c) : Scan (List Char))
    if (← input).onBreak then
      (skipBreak : Scan Unit)
      modify fun p => if p.flowDepth = 0 then { p with keyAllowed := true } else p
      toNextToken fuel

/-- The end of the text. -/
def cutEnd : Cut Unit := do
  let mark ← here
  if mark.column ≠ 0 then
    (modify fun i => { i with mark := { i.mark with line := i.mark.line + 1, column := 0 } } :
      Scan Unit)
  closeBlocks (-1)
  dropKey
  modify fun p => { p with keyAllowed := false, ended := true }
  pushHere .streamEnd

private def directiveContext : String := "while scanning a directive"

/-- A number in a version directive. -/
private def versionNumber (start : Mark) : Scan Nat := do
  let context := "while scanning a %YAML directive"
  let digits := ((← get).rest.takeWhile Char.isDigit)
  if 9 < digits.length then
    modify fun i => (digits.take 9).foldl (fun i _ => i.skip) i
    complain context start "found extremely long version number"
  else if digits.isEmpty then complain context start "did not find expected version number"
  else
    let _ ← takeWhile Char.isDigit
    pure (digits.foldl (fun acc c => acc * 10 + (c.toNat - 48)) 0)

/-- A tag handle: a mark of exclamation, and maybe a word and another mark. -/
private def tagHandle (directive : Bool) (start : Mark) : Scan String := do
  let context := if directive then "while scanning a tag directive" else "while scanning a tag"
  if !(← get).has 0 '!' then complain context start "did not find expected '!'"
  skip
  let word ← takeWhile isWord
  if (← get).has 0 '!' then
    skip
    pure (String.ofList ('!' :: word ++ ['!']))
  else if directive && !word.isEmpty then
    complain "while parsing a tag directive" start "did not find expected '!'"
  else pure (String.ofList ('!' :: word))

private def hexByte? (input : Input) : Option Nat := do
  let digit (c : Char) : Option Nat :=
    if c.isDigit then some (c.toNat - 48)
    else if 'a' ≤ c ∧ c ≤ 'f' then some (c.toNat - 87)
    else if 'A' ≤ c ∧ c ≤ 'F' then some (c.toNat - 55)
    else none
  guard (input.has 0 '%')
  let a ← (input.at? 1).bind digit
  let b ← (input.at? 2).bind digit
  some (a * 16 + b)

/-- A character written as escaped bytes in a tag. -/
private def tagEscape (directive : Bool) (start : Mark) : Scan Char := do
  let context := if directive then "while parsing a %TAG directive" else "while parsing a tag"
  let next : Scan Nat := do
    match hexByte? (← get) with
    | some byte =>
      skip
      skip
      skip
      pure byte
    | none => complain context start "did not find URI escaped octet"
  match hexByte? (← get) with
  | none => complain context start "did not find URI escaped octet"
  | some lead =>
    let size :=
      if lead < 0x80 then 1 else if lead / 32 = 6 then 2 else if lead / 16 = 14 then 3
      else if lead / 8 = 30 then 4 else 0
    if size = 0 then complain context start "found an incorrect leading UTF-8 octet"
    else
      let _ ← next
      let first := if size = 1 then lead else lead % Nat.pow 2 (7 - size)
      let mut value := first
      for _ in List.range (size - 1) do
        match hexByte? (← get) with
        | some byte =>
          if byte / 64 ≠ 2 then
            complain context start "found an incorrect trailing UTF-8 octet"
          let _ ← next
          value := value * 64 + byte % 64
        | none => complain context start "did not find URI escaped octet"
      pure (Char.ofNat value)

/-- The characters of a tag behind its handle. -/
private def tagCharacters (brackets directive : Bool) (start : Mark) :
    Nat → List Char → Scan (List Char)
  | 0, taken => pure taken
  | fuel + 1, taken => do
    match (← get).at? 0 with
    | some '%' =>
      let c ← tagEscape directive start
      tagCharacters brackets directive start fuel (taken ++ [c])
    | some c =>
      if isWord c || ";/?:@&=+$.!~*'()".toList.contains c
          || (brackets && (c = ',' || c = '[' || c = ']')) then
        skip
        tagCharacters brackets directive start fuel (taken ++ [c])
      else pure taken
    | none => pure taken

/-- A tag behind its handle; what the handle's word holds already belongs to it. -/
private def tagUri (brackets directive : Bool) (head : List Char) (start : Mark) :
    Scan String := do
  let taken ← tagCharacters brackets directive start ((← get).rest.length + 1) (head.drop 1)
  if taken.isEmpty && head.isEmpty then
    complain (if directive then "while parsing a %TAG directive" else "while parsing a tag") start
      "did not find expected tag URI"
  else pure (String.ofList taken)

/-- A directive line. -/
private def directive : Scan Token := do
  let start := (← get).mark
  skip
  let name ← takeWhile isWord
  if name.isEmpty then complain directiveContext start "could not find expected directive name"
  if !(← get).gapAt 0 then
    complain directiveContext start "found unexpected non-alphabetical character"
  let kind ← match String.ofList name with
    | "YAML" => do
      let _ ← takeWhile isSpace
      let major ← versionNumber start
      if !(← get).has 0 '.' then
        complain "while scanning a %YAML directive" start
          "did not find expected digit or '.' character"
      skip
      let minor ← versionNumber start
      pure (TokenKind.version major minor)
    | "TAG" => do
      let _ ← takeWhile isSpace
      let handle ← tagHandle true start
      if !(← get).onSpace then
        complain "while scanning a %TAG directive" start "did not find expected whitespace"
      let _ ← takeWhile isSpace
      let stem ← tagUri true true [] start
      if !(← get).gapAt 0 then
        complain "while scanning a %TAG directive" start
          "did not find expected whitespace or line break"
      pure (TokenKind.tagDirective handle stem)
    | _ => complain directiveContext start "found unknown directive name"
  let stop := (← get).mark
  endLine directiveContext start
  pure ⟨kind, start, stop⟩

/-- An anchor or an alias. -/
private def anchorOrAlias (isAlias : Bool) : Scan Token := do
  let start := (← get).mark
  skip
  let name ← takeWhile isWord
  let input ← get
  let ends := input.gapAt 0 || (input.at? 0).any (fun c => "?:,]\x7d%@\x60".toList.contains c)
  if name.isEmpty || !ends then
    complain (if isAlias then "while scanning an alias" else "while scanning an anchor") start
      "did not find expected alphabetic or numeric character"
  else
    let name := String.ofList name
    pure ⟨if isAlias then .alias name else .anchor name, start, input.mark⟩

/-- A tag. -/
private def tag (inFlow : Bool) : Scan Token := do
  let context := "while scanning a tag"
  let start := (← get).mark
  let (handle, suffix) ←
    if (← get).has 1 '<' then do
      skip
      skip
      let suffix ← tagUri true false [] start
      if !(← get).has 0 '>' then complain context start "did not find the expected '>'"
      skip
      pure ("", suffix)
    else do
      let handle ← tagHandle false start
      let chars := handle.toList
      if 1 < chars.length && chars.getLast? = some '!' then
        let suffix ← tagUri false false [] start
        pure (handle, suffix)
      else
        let suffix ← tagUri false false chars start
        pure (if suffix.isEmpty then ("", "!") else ("!", suffix))
  let input ← get
  if !(inFlow && input.has 0 ',') && !input.gapAt 0 then
    complain context start "did not find expected whitespace or line break"
  else pure ⟨.tag handle suffix, start, input.mark⟩

/-- An indicator of some characters. -/
private def indicator (size : Nat) (kind : TokenKind) : Cut Unit := do
  let start ← here
  (modify fun i => (List.range size).foldl (fun i _ => i.skip) i : Scan Unit)
  push ⟨kind, start, ← here⟩

private def setKeyAllowed (allowed : Bool) : Cut Unit :=
  modify fun p => { p with keyAllowed := allowed }

/-- A token at whose start a key may begin. -/
private def keyLike (scan : Scan Token) : Cut Unit := do
  saveKey
  setKeyAllowed false
  push (← (scan : Scan Token))

/-- The token for a colon: it confirms a remembered key, or stands for a key without text. -/
def cutValue : Cut Unit := do
  let p ← get
  match p.keyPlaces with
  | some key :: outer =>
    set { p with
      queue := p.queue.insertIdx (key.number - p.given) ⟨.key, key.mark, key.mark⟩,
      keyPlaces := none :: outer }
    openBlock key.mark.column (some key.number) .blockMappingStart key.mark
    setKeyAllowed false
  | _ =>
    if p.flowDepth = 0 then
      if !p.keyAllowed then reject "mapping values are not allowed in this context"
      let mark ← here
      openBlock mark.column none .blockMappingStart mark
    setKeyAllowed (p.flowDepth = 0)
  indicator 1 .value

/-- Cuts the next token, or several. -/
def cutNext : Cut Unit := do
  if !(← get).started then
    pushHere .streamStart
    modify fun p => { p with started := true }
    return
  toNextToken ((← input).rest.length + 1)
  dropStaleKeys
  closeBlocks (← here).column
  let i ← input
  let mark := i.mark
  let p ← get
  let inFlow := p.flowDepth ≠ 0
  match i.rest with
  | [] => cutEnd
  | c :: _ =>
    if mark.column = 0 && c = '%' then
      closeBlocks (-1)
      dropKey
      setKeyAllowed false
      push (← (directive : Scan Token))
    else if i.documentMark then
      closeBlocks (-1)
      dropKey
      setKeyAllowed false
      indicator 3 (if c = '-' then .documentStart else .documentEnd)
    else if c = '[' || c = '{' then
      saveKey
      modify fun p =>
        { p with
          keyPlaces := none :: p.keyPlaces, flowDepth := p.flowDepth + 1, keyAllowed := true }
      indicator 1 (if c = '[' then .flowSequenceStart else .flowMappingStart)
    else if c = ']' || c = '}' then
      dropKey
      modify fun p =>
        if p.flowDepth ≠ 0 then
          { p with keyPlaces := p.keyPlaces.drop 1, flowDepth := p.flowDepth - 1,
                   keyAllowed := false }
        else { p with keyAllowed := false }
      indicator 1 (if c = ']' then .flowSequenceEnd else .flowMappingEnd)
    else if c = ',' then
      dropKey
      setKeyAllowed true
      indicator 1 .flowEntry
    else if c = '-' && i.gapAt 1 then
      if !inFlow then
        if !p.keyAllowed then reject "block sequence entries are not allowed in this context"
        openBlock mark.column none .blockSequenceStart mark
      dropKey
      setKeyAllowed true
      indicator 1 .blockEntry
    else if c = '?' && (inFlow || i.gapAt 1) then
      if !inFlow then
        if !p.keyAllowed then reject "mapping keys are not allowed in this context"
        openBlock mark.column none .blockMappingStart mark
      dropKey
      setKeyAllowed (!inFlow)
      indicator 1 .key
    else if c = ':' && (inFlow || i.gapAt 1) then cutValue
    else if c = '*' then keyLike (anchorOrAlias true)
    else if c = '&' then keyLike (anchorOrAlias false)
    else if c = '!' then keyLike (tag inFlow)
    else if (c = '|' || c = '>') && !inFlow then
      dropKey
      setKeyAllowed true
      push (← (blockScalar (c = '|') p.indent : Scan Token))
    else if c = '\'' then keyLike (quotedScalar true)
    else if c = '"' then keyLike (quotedScalar false)
    else if !("-?:,[]\x7b\x7d#&*!|>'\"%@\x60".toList.contains c || isSpace c)
        || (c = '-' && !i.gapAt 1) || (!inFlow && (c = '?' || c = ':') && !i.gapAt 1) then
      saveKey
      setKeyAllowed false
      let (token, broken) ← (plainScalar inFlow p.indent : Scan (Token × Bool))
      push token
      if broken then setKeyAllowed true
    else
      (complain "while scanning for the next token" mark
        "found character that cannot start any token" : Scan Unit)

/-- Cuts tokens until the next one to give is certain not to be a key. -/
def ready : Nat → Cut Unit
  | 0 => pure ()
  | fuel + 1 => do
    if !(← get).queue.isEmpty then dropStaleKeys
    let p ← get
    let open_ := p.keyPlaces.any fun place => place.any fun key => key.number = p.given
    if p.ended && p.queue.isEmpty then pure ()
    else if p.queue.isEmpty || open_ then
      cutNext
      ready fuel

end Cut

/-- Gives tokens until the text or the patience ends. -/
private def giveAll : Nat → Progress → Input → List Token × Option Complaint
  | 0, _, _ => ([], none)
  | fuel + 1, progress, input =>
    match ((Cut.ready (input.rest.length + 16)).run progress).run input with
    | .error complaint => ([], some complaint)
    | .ok (((), progress), input) =>
      match progress.queue with
      | [] => ([], none)
      | token :: queue =>
        let (tokens, complaint) :=
          giveAll fuel { progress with queue := queue, given := progress.given + 1 } input
        (token :: tokens, complaint)

/-- The tokens of a text, up to the first complaint. -/
def Token.ofText (chars : List Char) : List Token × Option Complaint :=
  giveAll (8 * chars.length + 64) {} ⟨chars, {}⟩

end Markup

end Gamebook
