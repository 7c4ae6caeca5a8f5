import Gamebook.Script.Complaint
import Gamebook.Script.Syntax
import Gamebook.Script.Tokens

/-!
# Reading scripts

Scripts are read by recursive descent. The mutual recursion of the grammar goes through `Goal`: a
rule asks for the sub-goals it needs from a reader with less fuel, and `reader` ties the knot.

* `Program.ofText` : a script of statements and functions.
* `Expr.ofText` : one expression, in which blocks hold one expression each.
-/

namespace Gamebook

namespace Script

namespace Grammar

/-- What reading must keep: the tokens that are left, the variables in view with whether they are
constants, and the functions read so far. -/
structure Reading where
  tokens : List (Token × Place)
  declared : List (String × Bool) := []
  functions : List Function := []

/-- A step of reading: it may move on, or end in a complaint. -/
abbrev Parse := StateT Reading (Except Complaint)

/-- Where reading stands in a script. -/
structure Setting where
  /-- At the outermost level, where functions may be defined. -/
  outermost : Bool := true
  inFunction : Bool := false
  inLoop : Bool := false
  /-- Blocks hold a single expression. -/
  expressionsOnly : Bool := false
  /-- A bar separates patterns and is no operator. -/
  barSeparates : Bool := false
  /-- The statement must be an expression or an assignment. -/
  onlyValue : Bool := false

/-- What can be asked of the reader. -/
inductive Goal : Type → Type where
  | expression : Goal Expr
  | unary : Goal Expr
  /-- Operators that bind more strongly than `strength`, behind their left operand. -/
  | operation (strength : Nat) (left : Expr) : Goal Expr
  /-- A statement; nothing for an empty one and for the definition of a function. -/
  | statement : Goal (Option Stmt)
  /-- A branch, behind its first word. -/
  | branch (place : Place) : Goal Stmt

/-- Reads what a goal asks for. -/
abbrev Reader := {α : Type} → Goal α → Setting → Parse α

/-! ## Tokens -/

/-- Ends reading with a complaint. -/
def complain {α : Type} (fallacy : Fallacy) (place : Place) : Parse α :=
  throw ⟨fallacy, place⟩

/-- The next token, which stays. -/
def peek : Parse (Token × Place) := do
  match (← get).tokens with
  | [] => pure (.finish, ⟨0, 0⟩)
  | t :: _ => pure t

/-- Takes the next token; the end of the script stays. -/
def next : Parse (Token × Place) := do
  let state ← get
  match state.tokens with
  | [] => pure (.finish, ⟨0, 0⟩)
  | [t] => pure t
  | t :: rest =>
    set { state with tokens := rest }
    pure t

/-- The next token is this keyword or sign. -/
def sees (s : String) : Parse Bool := do
  pure ((← peek).1.is s)

/-- Takes the next token if it is this keyword or sign. -/
def eats (s : String) : Parse Bool := do
  if ← sees s then
    let _ ← next
    pure true
  else pure false

/-- Complains about a token that is not the one that is needed. -/
def misses {α : Type} (found : Token × Place) (s purpose : String) : Parse α :=
  match found.1 with
  | .bad what => complain (.misspelled what) found.2
  | _ => complain (.missing s purpose) found.2

/-- Takes this keyword or sign. -/
def expect (s purpose : String) : Parse Place := do
  let found ← next
  if found.1.is s then pure found.2 else misses found s purpose

/-- Takes the name of a variable. -/
def variableName : Parse (String × Place) := do
  let (token, place) ← next
  match token with
  | .name s => pure (s, place)
  | .bad what => complain (.misspelled what) place
  | .reserved s =>
    if Token.isProperName s then complain (.reserved s) place else complain .noVariable place
  | _ => complain .noVariable place

/-- Brings a variable into view. -/
def declare (name : String) (constant : Bool) : Parse Unit :=
  modify (fun state => { state with declared := (name, constant) :: state.declared })

/-- Reads with what is declared inside going out of view at the end. -/
def locally {α : Type} (parse : Parse α) : Parse α := do
  let outer := (← get).declared
  let result ← parse
  modify (fun state => { state with declared := outer })
  pure result

/-- Repeats a step until it says that nothing follows. -/
def many {α : Type} (step : Parse (Option α)) : Nat → Parse (List α)
  | 0 => pure []
  | fuel + 1 => do
    match ← step with
    | none => pure []
    | some a => do
      let rest ← many step fuel
      pure (a :: rest)

/-- A bound on the number of steps that are left: each takes a token. -/
def budget : Parse Nat := do
  pure ((← get).tokens.length + 1)

/-! ## Guards and targets -/

/-- A guard may not start with a block. -/
def refuseBlock : Parse Unit := do
  let (token, place) ← peek
  if token.is "\x7b" then complain (.noExpression "a boolean") place

/-- A guard may not be followed by an assignment. -/
def refuseAssignment : Parse Unit := do
  let (token, place) ← peek
  if token.is "=" then
    complain (.misspelled (.noSuchSign "=" "Possibly a typo of '=='?")) place
  else if (token.assigning?).isSome then
    complain (.misspelled (.noSuchSign token.shown
      "Expecting a boolean expression, not an assignment")) place

/-- What an expression is called if it can be seen not to be a truth value. -/
def notTruth? : Expr → Option String
  | .literal item _ =>
    match item with
    | .bool _ => none
    | .unit => some "()"
    | .int _ => some "a number"
    | .float _ => some "a floating-point number"
    | .char _ => some "a character"
    | .text _ => some "a string"
    | item => some item.typeName
  | .joined .. => some "a string"
  | .array .. => some "an array"
  | .record .. => some "an object map"
  | _ => none

/-- Complains about an expression that can be seen not to be a truth value. -/
def ensureTruth (e : Expr) : Parse Expr :=
  match notTruth? e with
  | some found => complain (.wrongType "a boolean expression" found) e.place
  | none => pure e

/-- Reads a guard. -/
def guardExpression (read : Reader) (setting : Setting) : Parse Expr := do
  refuseBlock
  let guard ← ensureTruth (← read .expression setting)
  refuseAssignment
  pure guard

/-- Complains about a constant that is written to. -/
def refuseConstant (name : String) (place : Place) : Parse Unit := do
  match (← get).declared.lookup name with
  | some true => complain (.constant name) place
  | _ => pure ()

/-- The place of the first method among some links. -/
def methodPlace? : List Link → Option Place
  | [] => none
  | .method _ _ _ place :: _ => some place
  | _ :: rest => methodPlace? rest

/-- Complains about what cannot be written to. -/
def checkTarget (plain : Bool) (target : Expr) (place : Place) : Parse Unit :=
  match target with
  | .this _ => pure ()
  | .named name _ at_ => refuseConstant name at_
  | .chain root links =>
    match methodPlace? links, root with
    | some place, _ => complain .notAssignable place
    | none, .this _ => pure ()
    | none, .named name _ at_ => refuseConstant name at_
    | none, root => complain .notAssignable root.place
  | e =>
    if e.literal?.isSome then complain (.constant "") e.place
    else match e, plain with
      | .both .., true | .either .., true | .orElse .., true =>
        complain (.misspelled (.noSuchSign "=" "Possibly a typo of '=='?")) place
      | _, _ => complain .notAssignable e.place

/-! ## Expressions -/

/-- Reads the arguments of a call behind its opening parenthesis. -/
def arguments (read : Reader) (setting : Setting) (function : String) : Parse (List Expr) := do
  let purpose := "to close the arguments list of this function call '" ++ function ++ "'"
  let separate := "to separate the arguments to function call '" ++ function ++ "'"
  let (token, place) ← peek
  match token with
  | .finish => complain (.missing ")" purpose) place
  | .bad what => complain (.misspelled what) place
  | _ =>
    many (do
      if ← eats ")" then pure none
      else
        let e ← read .expression setting
        let found ← peek
        if found.1.is ")" then pure (some e)
        else if ← eats "," then pure (some e)
        else match found.1 with
          | .finish => complain (.missing ")" purpose) found.2
          | _ => misses found "," separate) (← budget)

/-- Reads the arguments of a call, whose opening parenthesis comes next. -/
def argumentList (read : Reader) (setting : Setting) (function : String) : Parse (List Expr) := do
  if ← eats "()" then pure []
  else
    let _ ← next
    arguments read setting function

/-- Reads a call behind the name of its function. -/
def callOf (read : Reader) (setting : Setting) (name : String) (place : Place) : Parse Expr := do
  if ← eats "!" then
    let found ← peek
    if !(found.1.is "(" || found.1.is "()") then
      complain (.missing "(" "to start arguments list of function call") found.2
  let args ← argumentList read setting name
  pure (.call name args place)

/-- A call follows a name. -/
def seesCall : Parse Bool := do
  let (token, _) ← peek
  pure (token.is "(" || token.is "()" || token.is "!")

/-- Reads an expression in parentheses. -/
def parenthesised (read : Reader) (setting : Setting) (place : Place) : Parse Expr := do
  if ← eats ")" then pure (.literal .unit place)
  else
    let e ← read .expression setting
    let _ ← expect ")" "for a matching ( in this expression"
    pure e

/-- Reads a list behind its opening bracket. -/
def arrayItems (read : Reader) (setting : Setting) : Parse (List Expr) := do
  let purpose := "to end this array literal"
  many (do
    let (token, place) ← peek
    if ← eats "]" then pure none
    else match token with
      | .finish => complain (.missing "]" purpose) place
      | _ =>
        let e ← read .expression setting
        let found ← peek
        if found.1.is "]" then pure (some e)
        else if ← eats "," then pure (some e)
        else match found.1 with
          | .finish => complain (.missing "]" purpose) found.2
          | _ => misses found "," "to separate the items of this array literal") (← budget)

/-- Reads the name of a field. -/
def fieldName (seen : List String) : Parse String := do
  let close : String := "\x7d"
  let purpose := "to end this object map literal"
  let (token, place) ← next
  let given (s : String) : Parse String :=
    if seen.contains s then complain (.repeatedProperty s) place else pure s
  match token with
  | .name s => given s
  | .text s => given s
  | .opening _ => complain .noProperty place
  | .bad what => complain (.misspelled what) place
  | .finish => complain (.missing close purpose) place
  | .reserved s =>
    if Token.isProperName s then complain (.reserved s) place
    else if seen.isEmpty then complain (.missing close purpose) place
    else complain .noProperty place
  | _ =>
    if seen.isEmpty then complain (.missing close purpose) place else complain .noProperty place

/-- Reads the fields of a record behind its opening brace. -/
def recordFields (read : Reader) (setting : Setting) :
    Nat → List String → Parse (List (String × Expr))
  | 0, _ => pure []
  | fuel + 1, seen => do
    let close : String := "\x7d"
    let purpose := "to end this object map literal"
    if ← eats close then pure []
    else
      let name ← fieldName seen
      let colon ← next
      if !colon.1.is ":" then
        misses colon ":"
          ("to follow the property '" ++ name ++ "' in this object map literal")
      let value ← read .expression setting
      let found ← peek
      if !(← eats ",") && !found.1.is close then
        match found.1 with
        | .name _ =>
          complain (.missing "," "to separate the items of this object map literal") found.2
        | _ => misses found close purpose
      let rest ← recordFields read setting fuel (name :: seen)
      pure ((name, value) :: rest)

/-- Statements that need no semicolon behind them. -/
def endsItself : Stmt → Bool
  | .branch .. => true
  | .select .. => true
  | .repeating .. => true
  | .each .. => true
  | .block .. => true
  | .attempt .. => true
  | _ => false

/-- Reads one statement of a block with what ends it. The outer `none` stands for the end of the
block, which is `close`, the inner one for an empty statement. -/
def blockStatement (read : Reader) (setting : Setting) : Parse (Option (Option Stmt)) := do
  let (token, place) ← peek
  if ← eats "\x7d" then pure none
  else match token with
    | .finish => complain (.missing "\x7d" "to terminate this block") place
    | _ =>
      match ← read .statement setting with
      | none => pure (some none)
      | some statement =>
        let found ← peek
        if found.1.is "\x7d" then pure (some (some statement))
        else if ← eats ";" then pure (some (some statement))
        else if endsItself statement then pure (some (some statement))
        else misses found ";" "to terminate this statement"

/-- Reads a block, opening brace included. -/
def block (read : Reader) (setting : Setting) : Parse (List Stmt × Place) := do
  let start ← next
  if !start.1.is "\x7b" then misses start "\x7b" "to start a statement block"
  let inner := { setting with outermost := false }
  if setting.expressionsOnly then
    match ← read .statement { inner with onlyValue := true } with
    | some statement =>
      let _ ← expect "\x7d" "to terminate this block"
      pure ([statement], start.2)
    | none => pure ([], start.2)
  else locally do
    let body ← many (blockStatement read inner) (← budget)
    pure (body.filterMap id, start.2)

/-- Reads the parts of a text with embedded blocks, behind its first piece. -/
def joinedParts (read : Reader) (setting : Setting) : Nat → Parse (List Expr)
  | 0 => pure []
  | fuel + 1 => do
    let (body, start) ← block read setting
    let embedded := Expr.statement (.block body start)
    let piece (s : String) (place : Place) : List Expr :=
      if s.isEmpty then [] else [.literal (.text s) place]
    let (token, place) ← next
    match token with
    | .text s => pure (embedded :: piece s place)
    | .opening s => do
      let rest ← joinedParts read setting fuel
      pure (embedded :: (piece s place ++ rest))
    | .bad what => complain (.misspelled what) place
    | _ => complain (.misspelled .openText) place

/-- Why a key cannot look into a container, where both are plain to see. `container` is `none`
behind another link. -/
def badIndex? (container : Option Expr) (key : Expr) : Option (String × Place) :=
  let unindexed : Option (String × Place) :=
    match container with
    | some (.literal item place) =>
      match item with
      | .text _ | .int _ => none
      | _ => some ("Only arrays, object maps and strings can be indexed", place)
    | some (.both l _ _) => some ("Only arrays, object maps and strings can be indexed", l.place)
    | some (.either l _ _) => some ("Only arrays, object maps and strings can be indexed", l.place)
    | _ => none
  match key with
  | .literal (.int _) place =>
    match container with
    | some (.record ..) => some ("Object map expects string index, not a number", place)
    | _ => unindexed
  | .literal (.text _) place =>
    match container with
    | some (.array ..) => some ("Array or string expects numeric index, not a string", place)
    | some (.literal (.text _) _) =>
      some ("Array or string expects numeric index, not a string", place)
    | _ => unindexed
  | .joined _ place =>
    match container with
    | some (.array ..) => some ("Array or string expects numeric index, not a string", place)
    | _ => unindexed
  | .literal (.float _) place =>
    some ("Array access expects integer index, not a float", place)
  | .literal (.char _) place =>
    some ("Array access expects integer index, not a character", place)
  | .literal .unit place => some ("Array access expects integer index, not ()", place)
  | .literal (.bool _) place => some ("Array access expects integer index, not a boolean", place)
  | .both l _ _ => some ("Array access expects integer index, not a boolean", l.place)
  | .either l _ _ => some ("Array access expects integer index, not a boolean", l.place)
  | _ => none

/-- Reads what follows a dot. -/
def member (read : Reader) (setting : Setting) (guarded : Bool) : Parse Link := do
  let (token, place) ← next
  let called (s : String) : Parse Link := do
    if ← sees "!" then complain .badCapture place
    let args ← argumentList read setting s
    if args.isEmpty && (s == "Fn" || s == "eval") then
      complain (.misspelled (.noSuchSign s
        ("'" ++ s ++ "' should not be called in method style. Try " ++ s ++ "(...);"))) place
    pure (.method s args guarded place)
  match token with
  | .name s => if ← seesCall then called s else pure (.property s guarded place)
  | .reserved s =>
    if Token.isMethodWord s && (← seesCall) then called s else complain (.reserved s) place
  | _ => complain .noProperty place

/-- Reads the links behind an expression. `first` is the expression, if no link has been read. -/
def linksBehind (read : Reader) (setting : Setting) : Nat → Option Expr → Parse (List Link)
  | 0, _ => pure []
  | fuel + 1, first => do
    let (token, place) ← peek
    let guardedDot := token.is "?."
    let guardedKey := token.is "?["
    if token.is "." || guardedDot then
      let _ ← next
      let link ← member read setting guardedDot
      let rest ← linksBehind read setting fuel none
      pure (link :: rest)
    else if token.is "[" || guardedKey then
      let _ ← next
      let key ← read .expression setting
      match badIndex? first key with
      | some (reason, at_) => complain (.badIndex reason) at_
      | none =>
        let _ ← expect "]" "for a matching [ in this index expression"
        let rest ← linksBehind read setting fuel none
        pure (.index key guardedKey place :: rest)
    else pure []

/-- An expression with the links that follow it. -/
def withLinks (read : Reader) (setting : Setting) (root : Expr) : Parse Expr := do
  let links ← linksBehind read setting (← budget) (some root)
  pure (if links.isEmpty then root else .chain root links)

/-! ## Statements that may stand for values -/

/-- A pattern of a selection: a literal or a range of literals. -/
def pattern? (e : Expr) : Option Item :=
  match e with
  | .operator sign [low, high] _ =>
    let bounds : Option (Int64 × Int64) :=
      match low.literal?, high.literal? with
      | some (.int a), some (.int b) => some (a, b)
      | some (.int a), some .unit => some (a, Int64.maxValue)
      | some .unit, some (.int b) => some (0, b)
      | some .unit, some .unit => some (0, Int64.maxValue)
      | _, _ => none
    match sign, bounds with
    | "..", some (a, b) => some (.range a b false)
    | "..=", some (a, b) => some (.range a b true)
    | _, _ => none
  | e => e.literal?

/-- Reads the patterns of an arm, separated by bars. -/
def patterns (read : Reader) (setting : Setting) : Nat → Parse (List Expr)
  | 0 => pure []
  | fuel + 1 => do
    let state ← get
    match read .expression { setting with barSeparates := true } state with
    | .error complaint => complain (.noExpression "literal") complaint.place
    | .ok (e, after) =>
      set after
      if ← eats "|" then
        let rest ← patterns read setting fuel
        pure (e :: rest)
      else pure [e]

private def isRange : Item → Bool
  | .range .. => true
  | _ => false

private def isNumber : Item → Bool
  | .int _ => true
  | .float _ => true
  | _ => false

/-- Reads the patterns and the guard of an arm, behind which the arrow follows. -/
def armHead (read : Reader) (setting : Setting) :
    Parse (List (Expr × Item) × Option Expr) := do
  let es ← patterns read setting (← budget)
  let guard ← if ← eats "if" then pure (some (← guardExpression read setting)) else pure none
  let items ← es.mapM (fun e => do
    match pattern? e with
    | some item => pure (e, item)
    | none => complain (.noExpression "a literal") e.place)
  pure (items, guard)

/-- Reads the arms of a selection behind the opening brace. -/
def arms (read : Reader) (setting : Setting) : Nat → Option Place → Bool → Parse (List Arm)
  | 0, _, _ => pure []
  | fuel + 1, default?, ranged => do
    let purpose := "to end this switch block"
    let (token, place) ← peek
    if ← eats "\x7d" then pure []
    else
      if token matches .finish then complain (.missing "\x7d" purpose) place
      let isDefault := token.is "_" && default?.isNone
      let (items, guard) ←
        if isDefault then do
          let _ ← next
          let (after, at_) ← peek
          if after.is "if" then complain .defaultGuarded at_
          pure (([] : List (Expr × Item)), (none : Option Expr))
        else match default? with
          | some at_ => complain .defaultNotLast at_
          | none => armHead read setting
      let _ ← expect "=>" "in this switch case"
      let body ←
        if setting.expressionsOnly then do pure (Stmt.value (← read .expression setting))
        else do pure ((← read .statement setting).getD (.block [] place))
      let needsComma := setting.expressionsOnly || !endsItself body
      let mut nowRanged := ranged
      for (e, item) in items do
        if isRange item then nowRanged := true
        else if nowRanged && isNumber item then complain .numberBehindRange e.place
      let found ← peek
      if !(← eats ",") && !found.1.is "\x7d" then
        match found.1 with
        | .finish => complain (.missing ")" purpose) found.2
        | .bad what => complain (.misspelled what) found.2
        | _ =>
          if needsComma then
            complain (.missing "," "to separate the items in this switch block") found.2
      let rest ← arms read setting fuel (if isDefault then some place else default?) nowRanged
      pure (.mk (items.map Prod.snd) guard body :: rest)

/-- Reads a selection behind its first word. -/
def selection (read : Reader) (setting : Setting) (place : Place) : Parse Stmt := do
  let item ← read .expression setting
  let _ ← expect "\x7b" "to start a switch block"
  let inner := { setting with outermost := false }
  let cases ← arms read inner (← budget) none false
  pure (.select item cases place)

/-- Reads a branch behind its first word. -/
def branching (read : Reader) (setting : Setting) (place : Place) : Parse Stmt := do
  let guard ← guardExpression read setting
  let (body, _) ← block read setting
  if ← eats "else" then
    let (token, at_) ← peek
    if token.is "if" then
      let _ ← next
      let other ← read (.branch at_) setting
      pure (.branch guard body [other] place)
    else
      let (other, _) ← block read setting
      pure (.branch guard body other place)
  else pure (.branch guard body [] place)

/-- Reads a loop whose guard, if it has one, stands in front, behind its first word. -/
def repetition (read : Reader) (setting : Setting) (guarded : Bool) (place : Place) :
    Parse Stmt := do
  let guard ← if guarded then pure (some (← guardExpression read setting)) else pure none
  let (body, _) ← block read { setting with inLoop := true }
  pure (.repeating guard body place)

/-- Reads a loop whose guard stands behind its body, behind its first word. -/
def repetitionFirst (read : Reader) (setting : Setting) (place : Place) : Parse Stmt := do
  let (body, _) ← block read { setting with inLoop := true }
  let found ← next
  let wanted := found.1.is "while"
  if !wanted && !found.1.is "until" then misses found "while" "for the do statement"
  let guard ← guardExpression read { setting with inLoop := false }
  pure (.afterwards body guard wanted place)

/-- Reads a loop over items behind its first word. -/
def iteration (read : Reader) (setting : Setting) (place : Place) : Parse Stmt := do
  let (name, counter) ←
    if ← eats "(" then do
      let (name, _) ← variableName
      let found ← peek
      if !(← eats ",") then
        complain (.missing "," "after the iteration variable name") found.2
      let (counter, at_) ← variableName
      if counter == name then complain (.repeatedVariable counter) at_
      let found ← peek
      if !(← eats ")") then
        complain (.missing ")" "to close the iteration variable") found.2
      pure (name, some counter)
    else do
      let (name, _) ← variableName
      pure (name, none)
  let _ ← expect "in" "after the iteration variable"
  refuseBlock
  let items ← read .expression setting
  let (body, _) ← locally do
    if let some counter := counter then declare counter false
    declare name false
    block read { setting with inLoop := true }
  pure (.each name counter items body place)

/-! ## Operands and operators -/

/-- The signs behind which a range may lack its upper end. -/
private def closers : List String := ["]", ")", "\x7d", ",", ";", "=>"]

/-- Reads an operand: a literal, a name, a call, something in brackets, with its links. -/
def operand (read : Reader) (setting : Setting) : Parse Expr := do
  let (token, place) ← next
  let linked (e : Expr) : Parse Expr := withLinks read setting e
  let stray : Parse Expr := complain (.misspelled (.stray token.shown)) place
  match token with
  | .finish => complain .unfinished place
  | .bad what => complain (.misspelled what) place
  | .int n => linked (.literal (.int n) place)
  | .float x => linked (.literal (.float x) place)
  | .char c => linked (.literal (.char c) place)
  | .text s => linked (.literal (.text s) place)
  | .opening s =>
    let parts ← joinedParts read setting (← budget)
    linked (.joined (if s.isEmpty then parts else .literal (.text s) place :: parts) place)
  | .name s =>
    if ← seesCall then linked (← callOf read setting s place)
    else linked (.named s ((← get).declared.any (fun d => d.1 == s)) place)
  | .reserved s =>
    if Token.isCallable s && (← seesCall) then linked (← callOf read setting s place)
    else if s == "this" then
      if setting.inFunction then linked (.this place)
      else complain (.misspelled (.noSuchSign s "'this' can only be used in functions")) place
    else complain (.reserved s) place
  | .sign s =>
    match s with
    | "()" => linked (.literal .unit place)
    | "true" => linked (.literal (.bool true) place)
    | "false" => linked (.literal (.bool false) place)
    | "(" => linked (← parenthesised read setting place)
    | "[" => linked (.array (← arrayItems read setting) place)
    | "#\x7b" => linked (.record (← recordFields read setting (← budget) []) place)
    | "if" => linked (.statement (← branching read setting place))
    | "switch" => linked (.statement (← selection read setting place))
    | "\x7b" =>
      if setting.expressionsOnly then stray
      else do
        modify (fun state => { state with tokens := (token, place) :: state.tokens })
        let (body, start) ← block read setting
        linked (.statement (.block body start))
    | "while" =>
      if setting.expressionsOnly then stray
      else do linked (.statement (← repetition read setting true place))
    | "loop" =>
      if setting.expressionsOnly then stray
      else do linked (.statement (← repetition read setting false place))
    | "do" =>
      if setting.expressionsOnly then stray
      else do linked (.statement (← repetitionFirst read setting place))
    | "for" =>
      if setting.expressionsOnly then stray
      else do linked (.statement (← iteration read setting place))
    | _ => stray

/-- Reads an operand with the signs in front of it. -/
def signed (read : Reader) (setting : Setting) : Parse Expr := do
  let (token, place) ← peek
  if token.is "-" then
    let _ ← next
    match ← read .unary setting with
    | .literal (.int n) _ =>
      if n == Int64.minValue then
        pure (.literal (.float 9223372036854775808.0) place)
      else pure (.literal (.int (-n)) place)
    | .literal (.float x) _ => pure (.literal (.float (-x)) place)
    | e => pure (.operator "-" [e] place)
  else if token.is "+" then
    let _ ← next
    match ← read .unary setting with
    | .literal (.int n) at_ => pure (.literal (.int n) at_)
    | .literal (.float x) at_ => pure (.literal (.float x) at_)
    | e => pure (.operator "+" [e] place)
  else if token.is "!" then
    let _ ← next
    pure (.operator "!" [← read .unary setting] place)
  else operand read setting

/-- How strongly a token binds here. -/
def strengthOf (setting : Setting) (found : Token × Place) : Parse Nat :=
  match found.1 with
  | .reserved s =>
    if Token.isProperName s then pure 0 else complain (.unknownOperator s) found.2
  | token => pure (if setting.barSeparates && token.is "|" then 0 else token.precedence)

/-- What an operator makes of its operands. -/
def combine (sign : String) (left right : Expr) (place : Place) : Parse Expr :=
  match sign with
  | "||" => do
    let right ← ensureTruth right
    let left ← ensureTruth left
    pure (.either left right place)
  | "&&" => do
    let right ← ensureTruth right
    let left ← ensureTruth left
    pure (.both left right place)
  | "??" => pure (.orElse left right place)
  | "in" => pure (.membership right left left.place)
  | "!in" => pure (.operator "!" [.membership right left left.place] left.place)
  | _ => pure (.operator sign [left, right] place)

/-- Reads operators that bind more strongly than `strength`, and as strongly if they group to the
right. -/
def operations (read : Reader) (setting : Setting) (strength : Nat) :
    Nat → Expr → Parse Expr
  | 0, left => pure left
  | fuel + 1, left => do
    let found ← peek
    let own ← strengthOf setting found
    if own < strength || (own == strength && !found.1.bindsRight) then pure left
    else
      let (token, place) ← next
      let sign := token.shown
      let (after, at_) ← peek
      let openEnded := (sign == ".." || sign == "..=") &&
        ((after matches .finish) || closers.any after.is)
      let right ←
        if openEnded then pure (.literal .unit at_) else read .unary setting
      let following ← peek
      let later ← strengthOf setting following
      let right ←
        if own < later || (own == later && token.bindsRight) then
          read (.operation own right) setting
        else pure right
      operations read setting strength fuel (← combine sign left right place)

/-- Reads an expression. -/
def expression (read : Reader) (setting : Setting) : Parse Expr := do
  let (token, place) ← peek
  let left ←
    if token.is ".." || token.is "..=" then pure (.literal .unit place)
    else read .unary setting
  read (.operation 1 left) setting

/-! ## Statements -/

/-- Reads an expression for its effect, or an assignment. -/
def expressionStatement (read : Reader) (setting : Setting) : Parse Stmt := do
  let target ← read .expression setting
  let (token, place) ← peek
  if token.is "=" then
    let _ ← next
    let value ← read .expression setting
    checkTarget true target place
    pure (.assign none target value place)
  else match token.assigning? with
    | some sign => do
      let _ ← next
      let value ← read .expression setting
      checkTarget false target place
      pure (.assign (some sign) target value place)
    | none => pure (.value target)

/-- Reads a declaration behind its first word. -/
def declaration (read : Reader) (setting : Setting) (constant : Bool) : Parse Stmt := do
  let (name, place) ← variableName
  let value ← if ← eats "=" then pure (some (← read .expression setting)) else pure none
  declare name constant
  pure (.declare name constant value place)

/-- Reads the parameters of a function behind the opening parenthesis. -/
def parameters (function : String) : Nat → List String → Parse (List String)
  | 0, seen => pure seen
  | fuel + 1, seen => do
    let separate := "to separate the parameters of function '" ++ function ++ "'"
    let close := "to close the parameters list of function '" ++ function ++ "'"
    let (token, place) ← next
    match token with
    | .name s =>
      if seen.contains s then complain (.repeatedParameter function s) place
      else
        let found ← next
        if found.1.is ")" then pure (seen ++ [s])
        else if found.1.is "," then parameters function fuel (seen ++ [s])
        else misses found "," separate
    | _ => if token.is ")" then pure seen else misses (token, place) ")" close

/-- Reads a function behind its first word. -/
def function (read : Reader) (place : Place) : Parse Unit := do
  let (token, at_) ← next
  let name ←
    match token with
    | .name s => pure s
    | .reserved s => if Token.isCallable s then pure s else complain (.reserved s) at_
    | _ => complain .noFunctionName at_
  let params ←
    if ← eats "()" then pure []
    else if ← eats "(" then parameters name (← budget) []
    else complain (.noParameters name) (← peek).2
  let found ← peek
  if !found.1.is "\x7b" then complain (.noBody name) found.2
  let outer := (← get).declared
  modify (fun state => { state with declared := params.map (fun p => (p, false)) })
  let (body, _) ← block read { inFunction := true, outermost := false }
  modify (fun state => { state with declared := outer })
  let known := (← get).functions
  if known.any (fun f => f.name == name && f.params.length == params.length) then
    complain (.repeatedFunction name params.length) place
  modify (fun state => { state with functions := known ++ [⟨name, params, body⟩] })

/-- The value behind a word that leaves a block, unless the statement ends there. -/
def leavingValue (read : Reader) (setting : Setting) (braceEnds : Bool) : Parse (Option Expr) := do
  let (token, _) ← peek
  if (token matches .finish) || token.is ";" || (braceEnds && token.is "\x7d") then pure none
  else pure (some (← read .expression setting))

/-- Reads the rest of an attempt behind its first word. -/
def attempt (read : Reader) (setting : Setting) (place : Place) : Parse Stmt := do
  let (body, _) ← block read setting
  let found ← peek
  if !(← eats "catch") then complain (.missing "catch" "for the 'try' statement") found.2
  let caught ←
    if ← eats "(" then do
      let (name, _) ← variableName
      let found ← peek
      if !(← eats ")") then complain (.missing ")" "to enclose the catch variable") found.2
      pure (some name)
    else pure none
  let (rescue, _) ← locally do
    if let some name := caught then declare name false
    block read setting
  pure (.attempt body caught rescue place)

/-- Reads a statement. -/
def statement (read : Reader) (setting : Setting) : Parse (Option Stmt) := do
  let (token, place) ← peek
  let behind (parse : Parse Stmt) : Parse (Option Stmt) := do
    let _ ← next
    pure (some (← parse))
  let plain : Parse (Option Stmt) := do pure (some (← expressionStatement read setting))
  if setting.onlyValue then
    pure (some (← expressionStatement read { setting with onlyValue := false }))
  else match token with
  | .finish => pure none
  | .sign s =>
    match s with
    | ";" => do
      let _ ← next
      pure none
    | "\x7b" => do
      let (body, start) ← block read setting
      pure (some (.block body start))
    | "fn" =>
      if !setting.outermost then complain .innerFunction place
      else do
        let _ ← next
        function read place
        pure none
    | "private" =>
      if !setting.outermost then complain .innerFunction place
      else do
        let _ ← next
        let found ← next
        if !found.1.is "fn" then complain (.missing "fn" "following 'private'") found.2
        function read found.2
        pure none
    | "if" => behind (branching read setting place)
    | "switch" => behind (selection read setting place)
    | "while" => behind (repetition read setting true place)
    | "loop" => behind (repetition read setting false place)
    | "do" => behind (repetitionFirst read setting place)
    | "for" => behind (iteration read setting place)
    | "continue" =>
      if setting.inLoop then behind (pure (.skip place)) else complain .outsideLoop place
    | "break" =>
      if setting.inLoop then behind (do pure (.leave (← leavingValue read setting true) place))
      else complain .outsideLoop place
    | "return" =>
      behind (do pure (.give (← leavingValue read setting !setting.outermost) place))
    | "throw" =>
      behind (do pure (.raise (← leavingValue read setting !setting.outermost) place))
    | "try" => behind (attempt read setting place)
    | "let" => behind (declaration read setting false)
    | "const" => behind (declaration read setting true)
    | _ => plain
  | _ => plain

/-- Reads any goal, going at most `fuel` goals deep. -/
def reader : Nat → {α : Type} → Goal α → Setting → Parse α
  | 0, _, _, _ => complain .unfinished ⟨0, 0⟩
  | fuel + 1, _, goal, setting =>
    let read : Reader := fun goal setting => reader fuel goal setting
    match goal with
    | .expression => expression read setting
    | .unary => signed read setting
    | .operation strength left => do
      operations read setting strength (← budget) left
    | .statement => statement read setting
    | .branch place => branching read setting place

/-- Reads the statements of a script. -/
def outermostStatements (read : Reader) : Parse (List Stmt) := do
  let body ← many (do
    let (token, _) ← peek
    if token matches .finish then pure none
    else
      match ← read .statement {} with
      | none => pure (some none)
      | some statement =>
        let found ← peek
        if (found.1 matches .finish) || endsItself statement then pure (some (some statement))
        else if ← eats ";" then pure (some (some statement))
        else misses found ";" "to terminate this statement") (← budget)
  pure (body.filterMap id)

/-- The depth that no script of some length exceeds. -/
def depthFor (tokens : List (Token × Place)) : Nat := 4 * tokens.length + 8

end Grammar

open Grammar in
/-- Reads a script. -/
def Program.ofText (s : String) : Except Complaint Program :=
  let tokens := Token.ofText s
  let read : Reader := fun goal setting => reader (depthFor tokens) goal setting
  match outermostStatements read ⟨tokens, [], []⟩ with
  | .ok (body, state) => .ok ⟨state.functions, body⟩
  | .error complaint => .error complaint

open Grammar in
/-- Reads a single expression. -/
def Expr.ofText (s : String) : Except Complaint Expr :=
  let tokens := Token.ofText s
  let read : Reader := fun goal setting => reader (depthFor tokens) goal setting
  let parse : Parse Expr := do
    let e ← read .expression { expressionsOnly := true }
    let (token, place) ← peek
    match token with
    | .finish => pure e
    | _ => complain (.misspelled (.stray token.shown)) place
  match parse ⟨tokens, [], []⟩ with
  | .ok (e, _) => .ok e
  | .error complaint => .error complaint

end Script

end Gamebook
