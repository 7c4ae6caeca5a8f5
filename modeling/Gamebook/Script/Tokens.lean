import Gamebook.Decimal.Read
import Gamebook.Script.Token
import Gamebook.Text.Blank

/-!
# From text to tokens

`Token.ofText` cuts a script into tokens with their places. A back-quoted text with embedded
blocks becomes several tokens: a piece of text, the tokens of the block, the next piece. What cannot
be read becomes a token that says so, and reading goes on behind it.
-/

namespace Gamebook

namespace Script

/-- The rest of a script and the place of the character read last. -/
structure Cursor where
  rest : List Char
  place : Place

namespace Cursor

/-- The start of a script. -/
def start (s : String) : Cursor := ⟨s.toList, ⟨1, 0⟩⟩

/-- The place of the next character. -/
def ahead (cursor : Cursor) : Place := ⟨cursor.place.line, cursor.place.column + 1⟩

/-- Behind one character of a line. -/
def skip (cursor : Cursor) : Cursor := ⟨cursor.rest.drop 1, cursor.ahead⟩

/-- Behind some characters of a line. -/
def skipMany (cursor : Cursor) (n : Nat) : Cursor :=
  ⟨cursor.rest.drop n, ⟨cursor.place.line, cursor.place.column + n⟩⟩

/-- Behind a line break. -/
def newline (cursor : Cursor) : Cursor := ⟨cursor.rest.drop 1, ⟨cursor.place.line + 1, 0⟩⟩

/-- Behind the next character, whatever it is. -/
def step (cursor : Cursor) : Cursor :=
  match cursor.rest with
  | '\n' :: _ => cursor.newline
  | _ => cursor.skip

/-- Behind the characters of a class, at most `fuel` of them. -/
def skipWhile (p : Char → Bool) : Nat → Cursor → Cursor
  | 0, cursor => cursor
  | fuel + 1, cursor =>
    match cursor.rest with
    | c :: _ => if p c then skipWhile p fuel cursor.step else cursor
    | [] => cursor

end Cursor

namespace Lexer

private def quoteChar : Char := Char.ofNat 39

private def backQuote : Char := Char.ofNat 96

/-! ## Texts -/

/-- How a text between quotes is written. -/
structure Quoting where
  terminator : Char
  /-- Escapes mean nothing, and line breaks belong to the text. -/
  verbatim : Bool
  /-- A backslash at the end of a line continues the text on the next one. -/
  continues : Bool
  /-- A dollar sign and an opening brace begin an embedded block. -/
  embeds : Bool

private def doubleQuoted : Quoting := ⟨'"', false, true, false⟩

private def singleQuoted : Quoting := ⟨quoteChar, false, false, false⟩

private def backQuoted : Quoting := ⟨backQuote, true, false, true⟩

/-- A text that has been read. -/
structure Piece where
  text : List Char
  /-- An embedded block follows. -/
  embeds : Bool := false
  /-- The script ended before the text did. -/
  unended : Bool := false
  /-- The place of the first character. -/
  first? : Option Place := none

/-- Reads the digits of a numeric escape. -/
private def hexEscape : Nat → Nat → List Char → Cursor →
    Except (Misspelling × Place) (Nat × Cursor)
  | 0, value, _, cursor => .ok (value, cursor)
  | n + 1, value, seen, cursor =>
    match cursor.rest with
    | [] => .error (.badEscape (String.ofList seen), cursor.place)
    | c :: _ =>
      let seen := seen ++ [c]
      let after := cursor.skip
      match digitValue? c with
      | some d =>
        if d < 16 then hexEscape n (value * 16 + d) seen after
        else .error (.badEscape (String.ofList seen), after.place)
      | none => .error (.badEscape (String.ofList seen), after.place)

/-- The number of digits of a numeric escape. -/
private def escapeWidth? (c : Char) : Option Nat :=
  if c = 'x' then some 2 else if c = 'u' then some 4 else if c = 'U' then some 8 else none

/-- The character that a short escape stands for. -/
private def shortEscape? (quoting : Quoting) (c : Char) : Option Char :=
  if c = '\\' then some '\\'
  else if c = 't' then some '\t'
  else if c = 'n' then some '\n'
  else if c = 'r' then some '\r'
  else if c = quoting.terminator then some c
  else none

/-- Reads a text behind its opening quote. `taken` holds the characters so far, last first;
`margin` is the column up to which blanks of a continued line are skipped. -/
private def quotedText (quoting : Quoting) (start : Place) :
    Nat → List Char → Option Place → Nat → Cursor → Except (Misspelling × Place) (Piece × Cursor)
  | 0, _, _, _, _ => .error (.openText, start)
  | fuel + 1, taken, first?, margin, cursor =>
    match cursor.rest with
    | [] =>
      if quoting.verbatim then .ok (⟨taken.reverse, false, true, first?⟩, cursor.skip)
      else .error (.openText, start)
    | c :: rest =>
      let after := cursor.skip
      let begun := first?.or (some after.place)
      if quoting.embeds && c = '$' && rest.head? == some '{' then
        .ok (⟨taken.reverse, true, false, first?⟩, after)
      else if c = quoting.terminator && rest.head? != some c then
        .ok (⟨taken.reverse, false, false, first?⟩, after)
      else if c = quoting.terminator then
        quotedText quoting start fuel (c :: taken) begun 0 after.skip
      else if c = '\r' && rest.head? == some '\n' then
        quotedText quoting start fuel taken begun margin after
      else if c = '\n' && quoting.verbatim then
        quotedText quoting start fuel (c :: taken) begun margin cursor.newline
      else if c = '\n' then .error (.openText, start)
      else if c = '\\' && !quoting.verbatim then
        match rest with
        | [] =>
          if quoting.continues then .ok (⟨taken.reverse, false, true, begun⟩, after.skip)
          else .error (.openText, start)
        | e :: _ =>
          match shortEscape? quoting e, escapeWidth? e with
          | some meant, _ => quotedText quoting start fuel (meant :: taken) begun margin after.skip
          | none, some width =>
            match hexEscape width 0 ['\\', e] after.skip with
            | .error problem => .error problem
            | .ok (code, behind) =>
              if h : code.isValidChar then
                quotedText quoting start fuel (Char.ofNatAux code h :: taken) begun margin behind
              else .error (.badEscape (String.ofList ('\\' :: e ::
                (after.skip.rest.take width))), behind.place)
          | none, none =>
            if e = '\n' && quoting.continues then
              quotedText quoting start fuel taken begun (start.column + 1) after.newline
            else .error (.badEscape (String.ofList ['\\', e]), after.skip.place)
      else if isBlankChar c && after.place.column < margin then
        quotedText quoting start fuel taken begun margin after
      else quotedText quoting start fuel (c :: taken) begun 0 after

/-- Reads a text that starts with some number signs and a double quote, up to a double quote and as
many number signs. -/
private def rawText (start : Place) (signs : Nat) :
    Nat → List Char → Cursor → Except (Misspelling × Place) (List Char × Cursor)
  | 0, _, _ => .error (.openText, start)
  | fuel + 1, taken, cursor =>
    match cursor.rest with
    | [] => .error (.openText, start)
    | c :: rest =>
      if c = '"' && rest.take signs == List.replicate signs '#' then
        .ok (taken.reverse, cursor.skipMany (signs + 1))
      else rawText start signs fuel (c :: taken) cursor.step

/-! ## Numbers -/

/-- Behind the digits of a number and the separators between them. -/
private def digits (p : Char → Bool) (cursor : Cursor) : List Char × Cursor :=
  let run := cursor.rest.takeWhile (fun c => p c || c == '_')
  (run.filter (· != '_'), cursor.skipMany run.length)

/-- The digits of an exponent, with the letter in front, if one follows. -/
private def exponentPart (cursor : Cursor) : Option (List Char × Cursor) :=
  match cursor.rest with
  | 'e' :: c :: _ =>
    if c.isDigit then
      let (ds, after) := digits Char.isDigit cursor.skip
      some ('e' :: ds, after)
    else if c = '+' || c = '-' then
      let (ds, after) := digits Char.isDigit (cursor.skipMany 2)
      some ('e' :: c :: ds, after)
    else none
  | _ => none

/-- The point of a number with the digits behind it, if one follows. A point in front of a name is
no part of the number, nor is one in front of another point. -/
private def fractionPart (cursor : Cursor) : Option (List Char × Cursor) :=
  match cursor.rest with
  | '.' :: c :: _ =>
    if c.isDigit then
      let (ds, after) := digits Char.isDigit cursor.skip
      some ('.' :: ds, after)
    else if c = '_' || c = '.' || c.isAlpha then none
    else
      let (ds, after) := digits Char.isDigit cursor.skip
      some ('.' :: '0' :: ds, after)
  | _ => none

private def baseOf? (c : Char) : Option Nat :=
  if c = 'x' || c = 'X' then some 16
  else if c = 'o' || c = 'O' then some 8
  else if c = 'b' || c = 'B' then some 2
  else none

/-- The token of a whole number, a decimal or neither. -/
private def numberToken (negative : Bool) (chars : List Char) : Token :=
  let signed := if negative then '-' :: chars else chars
  let whole? : Option Int64 := do
    let n ← readNat? 10 chars
    let value : Int := if negative then -(n : Int) else n
    guard (-0x8000000000000000 ≤ value ∧ value < 0x8000000000000000)
    some (Int64.ofInt value)
  match whole?, Decimal.readFloat? signed with
  | some n, _ => .int n
  | none, some x => .float x
  | none, none => .bad (.badNumber (String.ofList signed))

/-- Reads a number; the cursor stands on its first digit. -/
private def number (negative : Bool) (cursor : Cursor) : Token × Cursor :=
  let based? : Option (Nat × Char) := match cursor.rest with
    | '0' :: c :: _ => (baseOf? c).map (fun base => (base, c))
    | _ => none
  match based? with
  | some (base, letter) =>
    let valid (c : Char) : Bool := (digitValue? c).any (· < base)
    let (ds, after) := digits valid (cursor.skipMany 2)
    match readNat? base ds with
    | some n =>
      if n < 0x10000000000000000 then
        let value := Int64.ofNat n
        (.int (if negative then -value else value), after)
      else (.bad (.badNumber (String.ofList ds)), after)
    | none => (.bad (.badNumber (String.ofList ('0' :: letter :: ds))), after)
  | none =>
    let (whole, after) := digits Char.isDigit cursor
    match exponentPart after with
    | some (e, behind) => (numberToken negative (whole ++ e), behind)
    | none =>
      match fractionPart after with
      | none => (numberToken negative whole, after)
      | some (fraction, after) =>
        match exponentPart after with
        | some (e, behind) => (numberToken negative (whole ++ fraction ++ e), behind)
        | none => (numberToken negative (whole ++ fraction), after)

/-! ## Words and signs -/

private def isWordChar (c : Char) : Bool := c.isAlphanum || c == '_'

/-- The token of a word. -/
private def word (chars : List Char) : Token :=
  let s := String.ofList chars
  if Token.keywords.contains s then .sign s
  else if Token.isReserved s then .reserved s
  else if Token.isProperName s then .name s
  else .bad (.badName s)

/-- The signs of the language and those it keeps out of use, the longer ones first. -/
private def signs : List String :=
  ["::<", "===", "!==", "**=", "<<=", ">>=", "..=", "...", "<|>",
    "()", "(*", "*)", "#\x7b", "#!", "+=", "++", "-=", "->", "--", "*=", "**", "/=", "..", "==",
    "=>", "::", ":=", ":;", "<=", "<-", "<<", "<|", ">=", ">>", "!=", "!.", "||", "|=", "|>",
    "&&", "&=", "^=", "%=", "?.", "??", "?[",
    "\x7b", "\x7d", "(", ")", "[", "]", "+", "-", "*", "/", ";", ",", ".", "=", ":", "<", ">", "!",
    "|", "&", "^", "%", "?", "#", "~", "@", "$"]

/-- The signs that are kept out of use. -/
private def idleSigns : List String :=
  ["::<", "===", "!==", "...", "<|>", "(*", "*)", "#!", "++", "->", "--", "::", ":=", ":;", "<-",
    "<|", "!.", "|>", "?", "#", "~", "@", "$"]

/-- The token of a sign. -/
private def signToken (s : String) : Token :=
  if idleSigns.contains s then
    if Token.advice s == "" then .reserved s else .bad (.noSuchSign s (Token.advice s))
  else .sign s

/-- The longest sign at the start of some characters. -/
private def signAt? (chars : List Char) : Option (String × Nat) :=
  signs.findSome? (fun s =>
    let n := s.length
    if chars.take n == s.toList then some (s, n) else none)

/-! ## Comments -/

/-- Behind a block comment that is open `depth` times. -/
private def blockComment : Nat → Nat → Cursor → Cursor
  | 0, _, cursor => cursor
  | fuel + 1, depth, cursor =>
    match cursor.rest with
    | [] => cursor
    | '/' :: '*' :: _ => blockComment fuel (depth + 1) (cursor.skipMany 2)
    | '*' :: '/' :: _ =>
      if depth ≤ 1 then cursor.skipMany 2 else blockComment fuel (depth - 1) (cursor.skipMany 2)
    | _ :: _ => blockComment fuel depth cursor.step

/-! ## Scripts -/

/-- What reading must remember between tokens. -/
structure Memory where
  /-- A minus sign may begin a number. -/
  signed : Bool := true
  /-- The braces open inside each embedded block, innermost first. -/
  blocks : List Nat := []

/-- The memory behind a token. -/
private def Memory.after (memory : Memory) (token : Token) : Memory :=
  let blocks := match token, memory.blocks with
    | .sign "\x7b", n :: outer => (n + 1) :: outer
    | .sign "#\x7b", n :: outer => (n + 1) :: outer
    | .sign "\x7d", n :: outer => (n - 1) :: outer
    | _, blocks => blocks
  ⟨token.beforeSignedNumber, blocks⟩

/-- The token of a piece of back-quoted text. -/
private def pieceToken (start : Place) (memory : Memory) :
    Except (Misspelling × Place) (Piece × Cursor) → Cursor →
      (Token × Place) × Memory × Cursor
  | .error (problem, place), cursor => ((.bad problem, place), memory, cursor)
  | .ok (piece, after), _ =>
    let text := String.ofList piece.text
    if piece.unended then ((.bad .openText, start), memory, after)
    else if piece.embeds then
      ((.opening text, start), ⟨false, 0 :: memory.blocks⟩, after)
    else ((.text text, start), ⟨false, memory.blocks⟩, after)

/-- The token that starts at the cursor, which stands on no blank and on no comment. -/
private def token (memory : Memory) (cursor : Cursor) : (Token × Place) × Memory × Cursor :=
  let start := cursor.ahead
  let size := cursor.rest.length + 1
  match cursor.rest with
  | [] => ((.finish, start), memory, cursor)
  | c :: rest =>
    let plain (t : Token) (after : Cursor) := ((t, start), memory.after t, after)
    if c = '-' && memory.signed && (rest.head?.any Char.isDigit) then
      let (t, after) := number true cursor.skip
      plain t after
    else if c.isDigit then
      let (t, after) := number false cursor
      plain t after
    else if c.isAlpha || c = '_' then
      let chars := cursor.rest.takeWhile isWordChar
      plain (word chars) (cursor.skipMany chars.length)
    else if c = '"' then
      match quotedText doubleQuoted start size [] none 0 cursor.skip with
      | .error (problem, place) =>
        ((.bad problem, place), memory, ⟨[], cursor.place⟩)
      | .ok (piece, after) =>
        if piece.unended then plain (.bad .openText) after
        else plain (.text (String.ofList piece.text)) after
    else if c = backQuote then
      let body := match rest with
        | '\r' :: '\n' :: _ => cursor.skip.skip.newline
        | '\n' :: _ => cursor.skip.newline
        | _ => cursor.skip
      pieceToken start memory (quotedText backQuoted start size [] none 0 body) ⟨[], cursor.place⟩
    else if c = quoteChar then
      if rest.head? == some quoteChar then plain (.bad (.badChar "")) (cursor.skipMany 2)
      else
        match quotedText singleQuoted start size [] none 0 cursor.skip with
        | .error (problem, place) => ((.bad problem, place), memory, ⟨[], cursor.place⟩)
        | .ok (piece, after) =>
          match piece.text with
          | [only] => plain (.char only) after
          | chars => plain (.bad (.badChar (String.ofList chars))) after
    else
      let hashes := cursor.rest.takeWhile (· == '#')
      if !hashes.isEmpty && cursor.rest[hashes.length]? == some '"' then
        match rawText start hashes.length size [] (cursor.skipMany (hashes.length + 1)) with
        | .error (problem, place) => ((.bad problem, place), memory, ⟨[], cursor.place⟩)
        | .ok (chars, after) => plain (.text (String.ofList chars)) after
      else if cursor.rest.take 3 == ['!', 'i', 'n'] && !(cursor.rest[3]?.any isWordChar) then
        plain (.sign "!in") (cursor.skipMany 3)
      else
        match signAt? cursor.rest with
        | some (s, n) => plain (signToken s) (cursor.skipMany n)
        | none => plain (.bad (.stray (String.singleton c))) cursor.skip

/-- The tokens from the cursor on, at most `fuel` of them. -/
private def tokens : Nat → Memory → Cursor → List (Token × Place)
  | 0, _, cursor => [(.finish, cursor.ahead)]
  | fuel + 1, memory, cursor =>
    match cursor.rest with
    | [] => [(.finish, cursor.ahead)]
    | '/' :: '/' :: _ =>
      tokens fuel memory (cursor.skipWhile (· != '\n') cursor.rest.length)
    | '/' :: '*' :: _ =>
      tokens fuel memory (blockComment cursor.rest.length 1 (cursor.skipMany 2))
    | c :: _ =>
      if isBlankChar c then tokens fuel memory cursor.step
      else if c = '}' && memory.blocks.head? == some 1 then
        let after := cursor.skip
        let outer : Memory := ⟨false, memory.blocks.drop 1⟩
        let read := quotedText backQuoted after.ahead (after.rest.length + 1) [] none 0 after
        let place := match read with
          | .ok (piece, _) => piece.first?.getD ⟨0, 0⟩
          | .error (_, place) => place
        let (piece, memory, behind) := pieceToken place outer read ⟨[], after.place⟩
        (.sign "\x7d", cursor.ahead) :: piece :: tokens fuel memory behind
      else
        let (t, memory, after) := token memory cursor
        t :: tokens fuel memory after

end Lexer

/-- The tokens of a script with their places; the last one is `Token.finish`. -/
def Token.ofText (s : String) : List (Token × Place) :=
  Lexer.tokens (s.length + 1) {} (.start s)

end Script

end Gamebook
