import Gamebook.Markup.Tokens

/-!
# From tokens to events

An event says that a scalar stands somewhere, or that a list or record begins or ends. The grammar
is a machine with a stack of states; each step looks at the next token and gives one event.

* `FirstDocument.ofTokens` : the events of the first document, whether there is more behind it, and
  the first complaint.
-/

namespace Gamebook

namespace Markup

/-- What an event tells. -/
inductive EventKind where
  | scalar (anchor tag : Option String) (text : String) (style : ScalarStyle)
  | sequenceStart (anchor tag : Option String)
  | sequenceEnd
  | mappingStart (anchor tag : Option String)
  | mappingEnd
  | alias (name : String)
  deriving Repr

/-- An event and where it begins. -/
structure Event where
  kind : EventKind
  mark : Mark
  deriving Repr

/-- What the grammar expects next. -/
inductive Expected where
  | streamStart
  | implicitDocumentStart
  | documentStart
  | documentContent
  | documentEnd
  | blockNode
  | blockSequenceFirst
  | blockSequenceEntry
  | indentlessSequenceEntry
  | blockMappingFirst
  | blockMappingKey
  | blockMappingValue
  | flowSequenceFirst
  | flowSequenceEntry
  | flowPairKey
  | flowPairValue
  | flowPairEnd
  | flowMappingFirst
  | flowMappingKey
  | flowMappingValue
  | flowMappingEmptyValue
  | nothing
  deriving Repr, DecidableEq

/-- The state of the grammar: the tokens left, and the complaint behind the last of them. -/
structure Grammar where
  tokens : List Token
  complaint : Option Complaint
  expected : Expected := .streamStart
  stack : List Expected := []
  /-- Where the open collections began. -/
  starts : List Mark := []
  /-- Tag handles and what they stand for. -/
  handles : List (String × String) := []

/-- What a step of the grammar gives. -/
inductive Outcome where
  | event (event : Event)
  /-- A document or the stream begins. -/
  | silent
  | documentEnd
  | streamEnd

/-- A step of the grammar. -/
abbrev Parse := StateT Grammar (Except Complaint)

namespace Parse

private def peek : Parse Token := do
  let g ← get
  match g.tokens with
  | token :: _ => pure token
  | [] => throw (g.complaint.getD ⟨"unexpected end of tokens", {}, none, {}⟩)

private def next : Parse Unit := modify fun g => { g with tokens := g.tokens.drop 1 }

private def expect (state : Expected) : Parse Unit := modify fun g => { g with expected := state }

private def later (state : Expected) : Parse Unit :=
  modify fun g => { g with stack := state :: g.stack }

/-- Goes on with what was put off last. -/
private def resume : Parse Unit :=
  modify fun g => { g with expected := g.stack.headD .nothing, stack := g.stack.drop 1 }

private def open_ (mark : Mark) : Parse Unit :=
  modify fun g => { g with starts := mark :: g.starts }

private def close : Parse Mark := do
  let g ← get
  set { g with starts := g.starts.drop 1 }
  pure (g.starts.headD {})

private def emit (kind : EventKind) (mark : Mark) : Parse Outcome := pure (.event ⟨kind, mark⟩)

/-- A value that is not written. -/
private def absent (mark : Mark) : Parse Outcome := emit (.scalar none none "" .plain) mark

private def reject {α : Type} (problem : String) (mark : Mark) : Parse α :=
  throw ⟨problem, mark, none, {}⟩

/-- Ends the open collection with the token at hand. -/
private def finish (kind : EventKind) : Parse Outcome := do
  let token ← peek
  resume
  let _ ← close
  next
  emit kind token.start

/-! ## Nodes -/

/-- Anchor and tag in front of a node: the anchor, the tag with its position, and the first
position if there is one of them. -/
private def properties : Parse (Option String × Option (String × String × Mark) × Option Mark) := do
  let token ← peek
  match token.kind with
  | .anchor name =>
    next
    let second ← peek
    match second.kind with
    | .tag handle suffix =>
      next
      pure (some name, some (handle, suffix, second.start), some token.start)
    | _ => pure (some name, none, some token.start)
  | .tag handle suffix =>
    next
    let second ← peek
    match second.kind with
    | .anchor name =>
      next
      pure (some name, some (handle, suffix, token.start), some token.start)
    | _ => pure (none, some (handle, suffix, token.start), some token.start)
  | _ => pure (none, none, none)

/-- A tag with its handle replaced by what it stands for. -/
private def resolveTag (start : Mark) : Option (String × String × Mark) → Parse (Option String)
  | none => pure none
  | some (handle, suffix, mark) => do
    if handle = "" then pure (some suffix)
    else
      match (← get).handles.find? (fun entry => entry.1 = handle) with
      | some (_, stem) => pure (some (stem ++ suffix))
      | none =>
        throw ⟨"found undefined tag handle", mark, some "while parsing a node", start⟩

/-- A node: an alias, a scalar, or the start of a collection. In a block it may be a block
collection; a list as the value of a key needs no indentation. -/
private def node (block indentless : Bool) : Parse Outcome := do
  let first ← peek
  match first.kind with
  | .alias name =>
    resume
    next
    emit (.alias name) first.start
  | _ =>
    let (anchor, written, since) ← properties
    let start := since.getD first.start
    let tag ← resolveTag start written
    let token ← peek
    let begin_ (kind : EventKind) (state : Expected) : Parse Outcome := do
      expect state
      emit kind start
    match token.kind with
    | .blockEntry =>
      if indentless then begin_ (.sequenceStart anchor tag) .indentlessSequenceEntry
      else other anchor tag start token
    | .scalar text style =>
      resume
      next
      let plainTag := tag = some "!"
      let tag := if plainTag then none else tag
      let style := if plainTag then ScalarStyle.plain else style
      emit (.scalar anchor tag text style) start
    | .flowSequenceStart => begin_ (.sequenceStart anchor tag) .flowSequenceFirst
    | .flowMappingStart => begin_ (.mappingStart anchor tag) .flowMappingFirst
    | .blockSequenceStart =>
      if block then begin_ (.sequenceStart anchor tag) .blockSequenceFirst
      else other anchor tag start token
    | .blockMappingStart =>
      if block then begin_ (.mappingStart anchor tag) .blockMappingFirst
      else other anchor tag start token
    | _ => other anchor tag start token
where
  other (anchor tag : Option String) (start : Mark) (token : Token) : Parse Outcome := do
    if anchor.isSome || tag.isSome then
      resume
      emit (.scalar anchor tag "" .plain) start
    else
      let context := if block then "while parsing a block node" else "while parsing a flow node"
      throw ⟨"did not find expected node content", token.start, some context, start⟩

/-- A node, put off in favour of `after`, unless one of the given tokens follows: then nothing is
written there, at the given position or at that of the token. -/
private def nodeUnless (stops : List TokenKind) (block indentless : Bool) (after : Expected)
    (mark : Option Mark) : Parse Outcome := do
  let token ← peek
  if stops.contains token.kind then
    expect after
    absent (mark.getD token.start)
  else
    later after
    node block indentless

/-! ## Documents -/

private def directives (fuel : Nat) (seen : Option (Nat × Nat)) (own : List (String × String)) :
    Parse (List (String × String)) := do
  match fuel with
  | 0 => pure own
  | fuel + 1 =>
    let token ← peek
    match token.kind with
    | .version major minor =>
      if seen.isSome then reject "found duplicate %YAML directive" token.start
      else if major ≠ 1 || (minor ≠ 1 && minor ≠ 2) then
        reject "found incompatible YAML document" token.start
      else
        next
        directives fuel (some (major, minor)) own
    | .tagDirective handle stem =>
      if own.any (fun entry => entry.1 = handle) then
        reject "found duplicate %TAG directive" token.start
      else
        next
        directives fuel seen (own ++ [(handle, stem)])
    | _ => pure own

private def readDirectives : Parse Unit := do
  let own ← directives ((← get).tokens.length + 1) none []
  modify fun g => { g with handles := own ++ [("!", "!"), ("!!", "tag:yaml.org,2002:")] }

private def skipDocumentEnds : Nat → Parse Unit
  | 0 => pure ()
  | fuel + 1 => do
    if (← peek).kind = .documentEnd then
      next
      skipDocumentEnds fuel

private def documentStart (implicit : Bool) : Parse Outcome := do
  if !implicit then skipDocumentEnds ((← get).tokens.length)
  let token ← peek
  let explicitStart := match token.kind with
    | .version .. => true
    | .tagDirective .. => true
    | .documentStart => true
    | _ => !implicit
  if token.kind = .streamEnd then
    expect .nothing
    next
    pure .streamEnd
  else if explicitStart then
    readDirectives
    let token ← peek
    if token.kind ≠ .documentStart then
      reject "did not find expected <document start>" token.start
    else
      later .documentEnd
      expect .documentContent
      next
      pure .silent
  else
    readDirectives
    later .documentEnd
    expect .blockNode
    pure .silent

private def documentContent : Parse Outcome := do
  let token ← peek
  let blank := match token.kind with
    | .version .. => true
    | .tagDirective .. => true
    | .documentStart => true
    | .documentEnd => true
    | .streamEnd => true
    | _ => false
  if blank then
    resume
    absent token.start
  else node true false

private def documentEnd : Parse Outcome := do
  let token ← peek
  if token.kind = .documentEnd then next
  modify fun g => { g with handles := [] }
  expect .documentStart
  pure .documentEnd

/-! ## Collections -/

private def openHere : Parse Unit := do
  open_ (← peek).start
  next

private def blockSequenceEntry : Parse Outcome := do
  let token ← peek
  match token.kind with
  | .blockEntry =>
    next
    nodeUnless [.blockEntry, .blockEnd] true false .blockSequenceEntry (some token.stop)
  | .blockEnd => finish .sequenceEnd
  | _ =>
    throw ⟨"did not find expected '-' indicator", token.start,
      some "while parsing a block collection", ← close⟩

private def indentlessSequenceEntry : Parse Outcome := do
  let token ← peek
  match token.kind with
  | .blockEntry =>
    next
    nodeUnless [.blockEntry, .key, .value, .blockEnd] true false .indentlessSequenceEntry
      (some token.stop)
  | _ =>
    resume
    emit .sequenceEnd token.start

private def blockMappingKey : Parse Outcome := do
  let token ← peek
  match token.kind with
  | .key =>
    next
    nodeUnless [.key, .value, .blockEnd] true true .blockMappingValue (some token.stop)
  | .blockEnd => finish .mappingEnd
  | _ =>
    throw ⟨"did not find expected key", token.start, some "while parsing a block mapping",
      ← close⟩

private def blockMappingValue : Parse Outcome := do
  let token ← peek
  match token.kind with
  | .value =>
    next
    nodeUnless [.key, .value, .blockEnd] true true .blockMappingKey (some token.stop)
  | _ =>
    expect .blockMappingKey
    absent token.start

/-- Moves over the comma in front of a further part of a flow collection. -/
private def flowSeparator (first : Bool) (context problem : String) : Parse Unit := do
  if !first then
    let token ← peek
    if token.kind = .flowEntry then next
    else throw ⟨problem, token.start, some context, ← close⟩

private def flowSequenceEntry (first : Bool) : Parse Outcome := do
  if (← peek).kind = .flowSequenceEnd then finish .sequenceEnd
  else
    flowSeparator first "while parsing a flow sequence" "did not find expected ',' or ']'"
    let token ← peek
    match token.kind with
    | .key =>
      expect .flowPairKey
      next
      emit (.mappingStart none none) token.start
    | .flowSequenceEnd => finish .sequenceEnd
    | _ =>
      later .flowSequenceEntry
      node false false

private def flowPairKey : Parse Outcome := do
  let token ← peek
  if [TokenKind.value, .flowEntry, .flowSequenceEnd].contains token.kind then
    next
    expect .flowPairValue
    absent token.stop
  else
    later .flowPairValue
    node false false

private def flowPairValue : Parse Outcome := do
  let token ← peek
  if token.kind = .value then
    next
    nodeUnless [.flowEntry, .flowSequenceEnd] false false .flowPairEnd none
  else
    expect .flowPairEnd
    absent token.start

private def flowMappingKey (first : Bool) : Parse Outcome := do
  if (← peek).kind = .flowMappingEnd then finish .mappingEnd
  else
    flowSeparator first "while parsing a flow mapping" "did not find expected ',' or '\x7d'"
    let token ← peek
    match token.kind with
    | .key =>
      next
      nodeUnless [.value, .flowEntry, .flowMappingEnd] false false .flowMappingValue none
    | .flowMappingEnd => finish .mappingEnd
    | _ =>
      later .flowMappingEmptyValue
      node false false

private def flowMappingValue : Parse Outcome := do
  let token ← peek
  if token.kind = .value then
    next
    nodeUnless [.flowEntry, .flowMappingEnd] false false .flowMappingKey none
  else
    expect .flowMappingKey
    absent token.start

/-- One step of the grammar. -/
def step : Parse Outcome := do
  match (← get).expected with
  | .streamStart =>
    let _ ← peek
    next
    expect .implicitDocumentStart
    pure .silent
  | .implicitDocumentStart => documentStart true
  | .documentStart => documentStart false
  | .documentContent => documentContent
  | .documentEnd => documentEnd
  | .blockNode => node true false
  | .blockSequenceFirst => do openHere; blockSequenceEntry
  | .blockSequenceEntry => blockSequenceEntry
  | .indentlessSequenceEntry => indentlessSequenceEntry
  | .blockMappingFirst => do openHere; blockMappingKey
  | .blockMappingKey => blockMappingKey
  | .blockMappingValue => blockMappingValue
  | .flowSequenceFirst => do openHere; flowSequenceEntry true
  | .flowSequenceEntry => flowSequenceEntry false
  | .flowPairKey => flowPairKey
  | .flowPairValue => flowPairValue
  | .flowPairEnd => do
    let token ← peek
    expect .flowSequenceEntry
    emit .mappingEnd token.start
  | .flowMappingFirst => do openHere; flowMappingKey true
  | .flowMappingKey => flowMappingKey false
  | .flowMappingValue => flowMappingValue
  | .flowMappingEmptyValue => do
    let token ← peek
    expect .flowMappingKey
    absent token.start
  | .nothing => pure .streamEnd

end Parse

/-- The first document of a text: its events, the complaint that ends them early, and whether the
text goes on behind it with another document or a complaint. -/
structure FirstDocument where
  events : List Event
  complaint : Option Complaint
  more : Bool

/-- Steps until something other than an event comes. -/
private def run : Nat → Grammar → List Event × Except Complaint (Outcome × Grammar)
  | 0, g => ([], .ok (.streamEnd, g))
  | fuel + 1, g =>
    match Parse.step.run g with
    | .error complaint => ([], .error complaint)
    | .ok (.event event, g) =>
      let (events, result) := run fuel g
      (event :: events, result)
    | .ok (.silent, g) => run fuel g
    | .ok (outcome, g) => ([], .ok (outcome, g))

/-- The events of the first document. -/
def FirstDocument.ofTokens (tokens : List Token) (complaint : Option Complaint) :
    FirstDocument :=
  let fuel := 8 * tokens.length + 64
  match run fuel { tokens := tokens, complaint := complaint } with
  | (events, .error complaint) => ⟨events, some complaint, false⟩
  | (events, .ok (.documentEnd, g)) =>
    match run fuel g with
    | ([], .ok (.streamEnd, _)) => ⟨events, none, false⟩
    | _ => ⟨events, none, true⟩
  | (events, .ok _) => ⟨events, none, false⟩

end Markup

end Gamebook
