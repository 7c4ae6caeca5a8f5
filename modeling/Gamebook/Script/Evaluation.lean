import Gamebook.Script.Library
import Gamebook.Script.Purity
import Gamebook.Script.Run

/-!
# Evaluation

What scripts do. The recursion goes through `Task`: the rules ask an evaluator with less fuel for
what is inside, and `evaluator` ties the knot.

A chain of accesses is walked from its root inwards, and what a method or an assignment changes at
its end is written back on the way out. A call with a variable as its first argument hands over the
variable itself; a constant is handed over as a copy.
-/

namespace Gamebook

namespace Script

/-- What scripts run with: their functions, and whether the story helpers are there. -/
structure Setup where
  functions : List Function
  helpers : Bool

/-- The function of a name for a number of arguments. -/
def Setup.function? (setup : Setup) (name : String) (arity : Nat) : Option Function :=
  setup.functions.find? (fun f => f.name == name && f.params.length == arity)

/-- Some function has this name. -/
def Setup.hasFunction (setup : Setup) (name : String) : Bool :=
  setup.functions.any (fun f => f.name == name)

namespace Evaluation

/-- What can be asked of an evaluator. -/
inductive Task where
  | expression (e : Expr)
  /-- Statements one after the other. `keep` says that the value of the last one is used. -/
  | statements (body : List Stmt) (keep : Bool)

/-- Does a task, so many calls deep. -/
abbrev Evaluator := Nat → Task → Run Item

/-- The calls that may be open at the same time. -/
def callLimit : Nat := 64

/-- The turns of a loop. -/
def turnLimit : Nat := 1000000000

/-! ## Failures -/

/-- Gives an answer, or fails at a place. -/
def answered {α : Type} (place : Place) : Except Cause α → Run α
  | .ok a => pure a
  | .error cause => Run.fail cause place

/-- Fails because no function of a name takes these arguments. -/
def missing {α : Type} (name : String) (args : List Item) (place : Place) : Run α :=
  Run.fail (.noFunction (Operators.signature name args)) place

/-- The truth value of an item. -/
def truth (item : Item) (place : Place) : Run Bool :=
  match item with
  | .bool b => pure b
  | item => Run.fail (.wrongType "bool" item.typeName) place

/-! ## Functions -/

/-- The name under which a function finds what it was called on. -/
def thisName : String := "this"

/-- The variables of a function when its body starts, newest first. -/
def frame (params : List String) (args : List Item) (this? : Option Item) : Scope :=
  ((params.zip args).map (fun (name, item) => ⟨name, false, item⟩)).reverse
    ++ (this?.map (fun item => ⟨thisName, false, item⟩)).toList

/-- Runs a function; gives what it ends with, and what has become of what it was called on. -/
def invoke (eval : Evaluator) (depth : Nat) (f : Function) (args : List Item)
    (this? : Option Item) (place : Place) : Run (Except Exit Item × Option Item) := do
  if callLimit ≤ depth then
    pure (.error (.failed { cause := .tooDeep, place := some place }), this?)
  else
    let (result, own) ←
      Run.elsewhere (frame f.params args this?) (eval (depth + 1) (.statements f.body true))
    let this? := this?.map (fun old => ((Scope.find? thisName own).map Binding.value).getD old)
    match result with
    | .error (.given item) => pure (.ok item, this?)
    | .error (.failed trouble) =>
      if trouble.isCatchable then
        pure (.error (.failed (trouble.leaving f.name (some place))), this?)
      else pure (.error (.failed trouble), this?)
    | result => pure (result, this?)

/-- Calls a library function; gives what it ends with, and the new value of its first argument if
that changes. -/
def callLibrary (setup : Setup) (name : String) (args : List Item) (place : Place) :
    Run (Except Exit (Item × Option Item)) := Run.outcome do
  match Library.dice? setup.helpers name args with
  | some draw =>
    match ← Run.roll draw with
    | .ok n => pure (.int n, none)
    | .error refusal => Run.fail (.thrown (.text refusal.message)) place
  | none =>
    match Library.function setup.helpers name args with
    | some answer => do
      let reply ← answered place answer
      pure (reply.value, reply.first)
    | none => missing name args place

/-- Calls a function by its name, all arguments as copies. -/
def callByName (setup : Setup) (eval : Evaluator) (depth : Nat) (name : String) (args : List Item)
    (place : Place) : Run Item := do
  match setup.function? name args.length with
  | some f =>
    let (result, _) ← invoke eval depth f args none place
    Run.ofExcept result
  | none =>
    let result ← callLibrary setup name args place
    let (item, _) ← Run.ofExcept result
    pure item

/-- The functions that the language itself answers. -/
def special (setup : Setup) (eval : Evaluator) (depth : Nat) (name : String) (args : List Item)
    (place : Place) : Option (Run Item) :=
  match name, args with
  | "type_of", [item] => some (pure (.text item.typeName))
  | "Fn", [.text s] => some
    (if Token.isProperName s || Token.isCallable s then pure (.function s)
     else Run.fail (.badFunctionName s) place)
  | "Fn", [item] => some (Run.fail (.wrongType "string" item.typeName) place)
  | "call", .function f :: args => some (callByName setup eval depth f args place)
  | "is_def_var", [.text s] => some do
    pure (.bool (← Run.find? s).isSome)
  | "is_def_fn", [.text s, .int n] => some
    (pure (.bool ((setup.function? s n.toInt.toNat).isSome && decide (0 ≤ n.toInt))))
  | "is_shared", [_] => some (pure (.bool false))
  | "exit", [] => some (Run.exit (.stopped .unit))
  | "exit", [item] => some (Run.exit (.stopped item))
  | _, _ => none

/-! ## Variables -/

/-- Where an expression keeps its item: in a variable, or nowhere. -/
inductive Home where
  | held (binding : Binding)
  | nowhere (item : Item)

/-- The item at home. -/
def Home.item : Home → Item
  | held b => b.value
  | nowhere item => item

/-- Nobody may write there. -/
def Home.isConstant : Home → Bool
  | held b => b.constant
  | nowhere _ => false

/-- Finds the home of a variable. A name that the script does not declare means a function of that
name first. -/
def homeOf (setup : Setup) (name : String) (declared : Bool) (place : Place) : Run Home := do
  if !declared && setup.hasFunction name then pure (.nowhere (.function name))
  else match ← Run.find? name with
    | some b => pure (.held b)
    | none => Run.fail (.noVariable name) place

/-- Finds the home of what a function was called on. -/
def homeOfThis (place : Place) : Run Home := do
  match ← Run.find? thisName with
  | some b => pure (.held b)
  | none => Run.fail .thisUnbound place

/-- Writes an item back home. -/
def Home.put (home : Home) (item : Item) : Run Unit :=
  match home with
  | held b => if b.constant then pure () else Run.write b.name item
  | nowhere _ => pure ()

/-- The home of an expression that is a variable. -/
def home? (setup : Setup) : Expr → Option (Run Home)
  | .named name declared place => some (homeOf setup name declared place)
  | .this place => some (homeOfThis place)
  | _ => none

/-! ## Calls -/

/-- Evaluates expressions from left to right. -/
def evaluateAll (eval : Evaluator) (depth : Nat) (es : List Expr) : Run (List Item) :=
  es.mapM (fun e => eval depth (.expression e))

/-- Evaluates the arguments of a call. A first argument that is a variable is looked up last. -/
def evaluateArguments (setup : Setup) (eval : Evaluator) (depth : Nat) (args : List Expr) :
    Run (Option Home × List Item) := do
  match args with
  | [] => pure (none, [])
  | first :: others =>
    match home? setup first with
    | some find =>
      let items ← evaluateAll eval depth others
      let home ← find
      pure (some home, home.item :: items)
    | none => do
      let items ← evaluateAll eval depth args
      pure (none, items)

/-- Calls a function with the values of expressions. -/
def call (setup : Setup) (eval : Evaluator) (depth : Nat) (name : String) (args : List Expr)
    (scripted : Bool) (place : Place) : Run Item := do
  let (home?, items) ← evaluateArguments setup eval depth args
  match special setup eval depth name items place with
  | some run => run
  | none =>
    match (if scripted then setup.function? name items.length else none) with
    | some f =>
      let (result, _) ← invoke eval depth f items none place
      Run.ofExcept result
    | none =>
      let result ← callLibrary setup name items place
      let (item, first?) ← Run.ofExcept result
      match home?, first? with
      | some home, some first =>
        home.put first
        pure item
      | _, _ => pure item

/-- Calls a method; gives what it ends with and what has become of its target. -/
def callMethod (setup : Setup) (eval : Evaluator) (depth : Nat) (constant : Bool) (target : Item)
    (name : String) (args : List Item) (place : Place) : Run (Except Exit Item × Item) := do
  let pointed : Option String := match target with
    | .record fields =>
      match Fields.find? name fields with
      | some (.function f) => some f
      | _ => none
    | _ => none
  match pointed with
  | some f =>
    match setup.function? f args.length with
    | some f =>
      let (result, this?) ← invoke eval depth f args (some target) place
      pure (result, this?.getD target)
    | none =>
      let result ← Run.outcome (callByName setup eval depth f args place)
      pure (result, target)
  | none =>
    match special setup eval depth name (target :: args) place,
        name == "call" || name == "type_of" || name == "is_shared" with
    | some run, true =>
      let result ← Run.outcome run
      pure (result, target)
    | _, _ =>
      match setup.function? name args.length with
      | some f =>
        let (result, this?) ← invoke eval depth f args (some target) place
        pure (result, this?.getD target)
      | none =>
        if constant && Library.changesFirst setup.helpers name target then
          pure (.error (.failed { cause := .constantChanged name, place := some place }), target)
        else
          match ← callLibrary setup name (target :: args) place with
          | .ok (item, first?) => pure (.ok item, first?.getD target)
          | .error reason => pure (.error reason, target)

/-! ## Chains -/

/-- A link whose key or arguments are known. -/
inductive Step where
  | property (name : String) (guarded : Bool) (place : Place)
  | key (item : Item) (guarded : Bool) (place : Place)
  | method (name : String) (args : List Item) (guarded : Bool) (place : Place)

/-- Evaluates what links hold, from left to right. -/
def prepare (eval : Evaluator) (depth : Nat) : List Link → Run (List Step)
  | [] => pure []
  | .property name guarded place :: rest => do
    let steps ← prepare eval depth rest
    pure (.property name guarded place :: steps)
  | .index key guarded _ :: rest => do
    let item ← eval depth (.expression key)
    let steps ← prepare eval depth rest
    pure (.key item guarded key.place :: steps)
  | .method name args guarded place :: rest => do
    let items ← evaluateAll eval depth args
    let steps ← prepare eval depth rest
    pure (.method name items guarded place :: steps)

/-- The link gives unit if it looks into unit. -/
def Step.isGuarded : Step → Bool
  | property _ guarded _ => guarded
  | key _ guarded _ => guarded
  | method _ _ guarded _ => guarded

/-- The link may change what it looks into. -/
def Step.isMethod : Step → Bool
  | method .. => true
  | _ => false

/-- What a link leads to: the item, and how to put another one in its place. -/
structure View where
  item : Item
  put : Item → Item

/-- Looks at a field of a record. A field that is not there is unit, and is written only if
`create` says so. -/
def fieldView (create : Bool) (fields : Fields Item) (name : String) : View :=
  match Fields.find? name fields with
  | some item => ⟨item, fun new => .record (Fields.insert name new fields)⟩
  | none =>
    ⟨.unit, fun new => if create then .record (Fields.insert name new fields) else .record fields⟩

/-- Looks at a property. -/
def propertyView (create : Bool) (target : Item) (name : String) : Except Cause View :=
  match target with
  | .record fields => .ok (fieldView create fields name)
  | target =>
    let unknown (what : String) : Cause :=
      .noProperty ("Unknown property '" ++ name ++ "' - a " ++ what
        ++ " is not registered for type '" ++ target.typeName ++ "'")
    if create then .error (unknown "setter")
    else match Library.property? name target with
      | some item => .ok ⟨item, fun _ => target⟩
      | none => .error (unknown "getter")

/-- Looks at an item of a list, a character of a text or a field of a record. -/
def keyView (create : Bool) (target key : Item) : Except Cause View :=
  match target, key with
  | .array items, .int i =>
    match (Library.position? items.length i.toInt).bind
        (fun n => (items[n]?).map (fun item => (n, item))) with
    | some (n, item) => .ok ⟨item, fun new => .array (items.set n new)⟩
    | none => .error (.listBounds items.length i.toInt)
  | .array _, key => .error (.wrongType "i64" key.typeName)
  | .record fields, .text name => .ok (fieldView create fields name)
  | .record _, key => .error (.wrongType "string" key.typeName)
  | .text s, .int i =>
    match (Library.position? s.length i.toInt).bind
        (fun n => (s.toList[n]?).map (fun c => (n, c))) with
    | some (n, c) =>
      .ok ⟨.char c, fun new =>
        match new with
        | .char d => .text (String.ofList (s.toList.set n d))
        | _ => target⟩
    | none => .error (.textBounds s.length i.toInt)
  | .text s, .range low high closed =>
    let start := Library.position s.length low.toInt
    let stop := Library.position s.length high.toInt + (if closed then 1 else 0)
    .ok ⟨.text (String.ofList ((s.toList.take stop).drop start)), fun _ => target⟩
  | .text _, key => .error (.wrongType "i64" key.typeName)
  | .int n, .int i =>
    match Library.position? 64 i.toInt with
    | some bit =>
      .ok ⟨.bool ((n.toUInt64 >>> UInt64.ofNat bit) &&& 1 == 1), fun new =>
        let mask : Int64 := (1 : Int64) <<< Int64.ofNat bit
        match new with
        | .bool true => .int (n ||| mask)
        | .bool false => .int (n &&& ~~~mask)
        | _ => target⟩
    | none => .error (.arithmetic ("Bit-field index " ++ toString i.toInt
        ++ " out of bounds: only 64 bits in bit-field"))
  | target, key => .error (.notIndexed (target.typeName ++ " [" ++ key.typeName ++ "]"))

/-- Walks along links to what they lead to, does something with it, and gives the result with what
has become of the target. `create` says that a field at the end may be new. -/
def walk (setup : Setup) (eval : Evaluator) (depth : Nat) (constant create : Bool)
    (act : Item → Run (Except Exit Item × Item)) :
    List Step → Item → Run (Except Exit Item × Item)
  | [], target => act target
  | step :: rest, target => do
    if step.isGuarded && (target matches .unit) then pure (.ok .unit, target)
    else
      let through (view : Except Cause View) (place : Place) : Run (Except Exit Item × Item) := do
        match view with
        | .error cause =>
          pure (.error (.failed { cause := cause, place := some place }), target)
        | .ok view =>
          let (result, new) ← walk setup eval depth constant create act rest view.item
          if create || rest.any Step.isMethod then pure (result, view.put new)
          else pure (result, target)
      match step with
      | .property name _ place =>
        through (propertyView (create && rest.isEmpty) target name) place
      | .key key _ place => through (keyView (create && rest.isEmpty) target key) place
      | .method name args _ place =>
        let (result, changed) ← callMethod setup eval depth constant target name args place
        match result with
        | .error reason => pure (.error reason, changed)
        | .ok item =>
          if rest.isEmpty then pure (.ok item, changed)
          else
            let (result, _) ← walk setup eval depth false create act rest item
            pure (result, changed)

/-- Walks along links from the home of a variable, and writes back what they change. -/
def walkHome (setup : Setup) (eval : Evaluator) (depth : Nat) (home : Home) (create : Bool)
    (act : Item → Run (Except Exit Item × Item)) (steps : List Step) : Run Item := do
  let (result, new) ← walk setup eval depth home.isConstant create act steps home.item
  if create || steps.any Step.isMethod then home.put new
  Run.ofExcept result

/-- Reads a chain. -/
def readChain (setup : Setup) (eval : Evaluator) (depth : Nat) (root : Expr) (links : List Link) :
    Run Item := do
  let steps ← prepare eval depth links
  let act (item : Item) : Run (Except Exit Item × Item) := pure (.ok item, item)
  match home? setup root with
  | some find => walkHome setup eval depth (← find) false act steps
  | none => do
    let item ← eval depth (.expression root)
    walkHome setup eval depth (.nowhere item) false act steps

/-! ## Assignments -/

/-- What an assignment makes of the old item. -/
def assigned (sign : Option String) (old new : Item) : Except Cause Item :=
  match sign with
  | none => .ok new
  | some sign =>
    match Operators.grown? sign old new with
    | some item => .ok item
    | none =>
      match Operators.binary? sign old new with
      | some answer => answer
      | none => .error (.noFunction (Operators.signature sign [old, new]))

/-- Writes to the home of a variable. -/
def assignHome (home : Home) (name : String) (sign : Option String) (new : Item)
    (target place : Place) : Run Unit := do
  match home with
  | .nowhere _ => Run.fail (.constant name) target
  | .held b =>
    if b.constant then Run.fail (.constant name) target
    else
      let item ← answered place (assigned sign b.value new)
      Run.write b.name item

/-- The name of a variable, for complaints. -/
def targetName : Expr → String
  | .named name _ _ => name
  | .this _ => thisName
  | .chain root _ => targetName root
  | _ => ""

/-- Does an assignment; the value is evaluated first. -/
def assign (setup : Setup) (eval : Evaluator) (depth : Nat) (sign : Option String)
    (target value : Expr) (place : Place) : Run Unit := do
  let new ← eval depth (.expression value)
  match target with
  | .chain root links =>
    let steps ← prepare eval depth links
    match home? setup root with
    | some find =>
      let home ← find
      if home.isConstant then Run.fail (.constant (targetName target)) root.place
      else
        let act (old : Item) : Run (Except Exit Item × Item) := pure <|
          match assigned sign old new with
          | .ok item => (.ok .unit, item)
          | .error cause => (.error (.failed { cause := cause, place := some place }), old)
        let _ ← walkHome setup eval depth home true act steps
        pure ()
    | none => pure ()
  | target =>
    match home? setup target with
    | some find => assignHome (← find) (targetName target) sign new target.place place
    | none => pure ()

/-- An assignment of a variable combined with itself is one through the sign. -/
def sharpened (sign : Option String) (target value : Expr) : Option String × Expr :=
  match sign, target, value with
  | none, .named name _ _, .operator op [.named other _ _, right] _ =>
    if name == other && (Token.assigning? (.sign (op ++ "="))).isSome then (some op, right)
    else (sign, value)
  | _, _, _ => (sign, value)

/-! ## Operators -/

/-- What a sign does with the values of expressions. -/
def operate (eval : Evaluator) (depth : Nat) (sign : String) (operands : List Expr)
    (place : Place) : Run Item := do
  let items ← evaluateAll eval depth operands
  let answer? := match items with
    | [a] => Operators.unary? sign a
    | [a, b] => Operators.binary? sign a b
    | _ => none
  match answer? with
  | some answer => answered place answer
  | none => missing sign items place

/-! ## Blocks and loops -/

/-- Runs a block whose variables go out of view at its end. -/
def runBlock (eval : Evaluator) (depth : Nat) (body : List Stmt) (keep : Bool) : Run Item :=
  Run.locally (eval depth (.statements body keep))

/-- What there is to go through in a loop. -/
inductive Supply where
  | items (left : List Item)
  /-- The whole numbers from `low` towards `high`, which is left out, every `stride` one. -/
  | numbers (low high stride : Int)

/-- The next item. -/
def Supply.next : Supply → Option (Item × Supply)
  | items [] => none
  | items (i :: rest) => some (i, items rest)
  | numbers low high stride =>
    if (0 < stride && low < high) || (stride < 0 && high < low) then
      some (.int (Int64.ofInt low), numbers (low + stride) high stride)
    else none

/-- What an item holds for a loop to go through. -/
def supply? : Item → Option Supply
  | .array items => some (.items items)
  | .text s => some (.items (s.toList.map .char))
  | .range low high closed =>
    some (.numbers low.toInt (high.toInt + if closed then 1 else 0) 1)
  | .progression low high stride => some (.numbers low.toInt high.toInt stride.toInt)
  | _ => none

/-- Runs the body of a loop once; gives the value with which the loop is left, if it is. -/
def turn (eval : Evaluator) (depth : Nat) (body : List Stmt) : Run (Option Item) := do
  match ← Run.outcome (runBlock eval depth body false) with
  | .ok _ => pure none
  | .error .skipped => pure none
  | .error (.left item) => pure (some item)
  | .error reason => Run.exit reason

/-- A loop that goes on while its guard is true. -/
def repeating (eval : Evaluator) (depth : Nat) (guard : Option Expr) (body : List Stmt) :
    Run Item :=
  Run.untilDone (fun (_ : Unit) => do
    let goes ← match guard with
      | none => pure true
      | some e => do truth (← eval depth (.expression e)) e.place
    if goes then
      match ← turn eval depth body with
      | some item => pure (.ok item)
      | none => pure (.error ())
    else pure (.ok .unit)) turnLimit ()

/-- A loop that asks its guard after each turn. -/
def afterwards (eval : Evaluator) (depth : Nat) (body : List Stmt) (guard : Expr)
    (wanted : Bool) : Run Item :=
  Run.untilDone (fun (_ : Unit) => do
    match ← turn eval depth body with
    | some item => pure (.ok item)
    | none =>
      let goes ← truth (← eval depth (.expression guard)) guard.place
      pure (if goes == wanted then .error () else .ok .unit)) turnLimit ()

/-- A loop over items. -/
def iterate (eval : Evaluator) (depth : Nat) (name : String) (counter : Option String)
    (items : Expr) (body : List Stmt) : Run Item := do
  let held ← eval depth (.expression items)
  match supply? held with
  | none => Run.fail .notIterable items.place
  | some supply =>
    Run.locally do
      if let some counter := counter then Run.declare counter false (.int 0)
      Run.declare name false .unit
      Run.untilDone (fun (at_ : Nat × Supply) => do
        match at_.2.next with
        | none => pure (.ok .unit)
        | some (item, rest) =>
          if let some counter := counter then Run.write counter (Library.size at_.1)
          Run.write name item
          match ← turn eval depth body with
          | some item => pure (.ok item)
          | none => pure (.error (at_.1 + 1, rest))) turnLimit (0, supply)

/-! ## Selections and attempts -/

/-- An item lies in a range. -/
def inRange (item pattern : Item) : Bool :=
  match pattern, item with
  | .range low high closed, .int n => low ≤ n && (n < high || (closed && n == high))
  | .range low high closed, .float x =>
    let least := Float.ofInt low.toInt
    let most := Float.ofInt high.toInt
    least ≤ x && (x < most || (closed && x == most))
  | _, _ => false

/-- The first arm whose guard holds. -/
def admitted (eval : Evaluator) (depth : Nat) : List Arm → Run (Option Stmt)
  | [] => pure none
  | .mk _ none body :: _ => pure (some body)
  | .mk _ (some guard) body :: rest => do
    if ← truth (← eval depth (.expression guard)) guard.place then pure (some body)
    else admitted eval depth rest

/-- Selects an arm and runs it. Arms with the item itself come before those with a range, and the
arm for everything else comes last. -/
def select (eval : Evaluator) (depth : Nat) (item : Item) (arms : List Arm) : Run Item := do
  let exact := arms.filter (fun | .mk patterns _ _ => patterns.any item.identical)
  let ranged := arms.filter (fun | .mk patterns _ _ => patterns.any (inRange item))
  let chosen ← admitted eval depth (if exact.isEmpty then ranged else exact)
  let fallback := arms.findSome? (fun
    | .mk [] _ body => some body
    | _ => none)
  match chosen.or fallback with
  | some body => runBlock eval depth [body] true
  | none => pure .unit

/-- Runs statements, and others if those fail. -/
def attempt (eval : Evaluator) (depth : Nat) (body : List Stmt) (caught : Option String)
    (rescue : List Stmt) : Run Item := do
  match ← Run.outcome (runBlock eval depth body false) with
  | .error (.failed trouble) =>
    if trouble.isCatchable then
      let saved ← Run.outcome <| Run.locally do
        if let some name := caught then Run.declare name false trouble.caught
        runBlock eval depth rescue false
      match saved with
      | .error (.failed again) =>
        match again.cause, again.calls with
        | .thrown .unit, [] => Run.exit (.failed { trouble with place := again.place })
        | _, _ => Run.exit (.failed again)
      | result => Run.ofExcept result
    else Run.exit (.failed trouble)
  | result => Run.ofExcept result

/-! ## Expressions and statements -/

/-- Evaluates an expression. -/
def expression (setup : Setup) (eval : Evaluator) (depth : Nat) : Expr → Run Item
  | .literal item _ => pure item
  | .joined parts _ => do
    let items ← evaluateAll eval depth parts
    pure (.text (String.join (items.map Item.toText)))
  | .array items _ => do pure (.array (← evaluateAll eval depth items))
  | .record fields _ => do
    let items ← evaluateAll eval depth (fields.map Prod.snd)
    pure (.record (Fields.sorted ((fields.map Prod.fst).zip items)))
  | .named name declared place => do pure (← homeOf setup name declared place).item
  | .this place => do pure (← homeOfThis place).item
  | .both left (.literal (.bool true) _) _ => eval depth (.expression left)
  | .both left right _ => do
    if ← truth (← eval depth (.expression left)) left.place then
      pure (.bool (← truth (← eval depth (.expression right)) right.place))
    else pure (.bool false)
  | .either left (.literal (.bool false) _) _ => eval depth (.expression left)
  | .either left right _ => do
    if ← truth (← eval depth (.expression left)) left.place then pure (.bool true)
    else pure (.bool (← truth (← eval depth (.expression right)) right.place))
  | .orElse left right _ => do
    match ← eval depth (.expression left) with
    | .unit => eval depth (.expression right)
    | item => pure item
  | .operator sign operands place => operate eval depth sign operands place
  | .membership container member place =>
    call setup eval depth "contains" [container, member] false place
  | .call name args place => call setup eval depth name args true place
  | .chain root links => readChain setup eval depth root links
  | .statement (.block body _) => runBlock eval depth body true
  | .statement body => runBlock eval depth [body] true

/-- The block does nothing. -/
def isIdle (keep : Bool) (body : List Stmt) : Bool :=
  if keep then body.isEmpty else blockPure body

/-- The value of an expression, or unit for none. -/
def optional (eval : Evaluator) (depth : Nat) : Option Expr → Run Item
  | none => pure .unit
  | some e => eval depth (.expression e)

/-- Runs a statement. -/
def statement (setup : Setup) (eval : Evaluator) (depth : Nat) (keep : Bool) : Stmt → Run Item
  | .value e => eval depth (.expression e)
  | .declare name constant value _ => do
    let item ← optional eval depth value
    Run.declare name constant item
    pure .unit
  | .assign sign target value place => do
    let (sign, value) := sharpened sign target value
    assign setup eval depth sign target value place
    pure .unit
  | .branch guard body otherwise _ => do
    let item ← eval depth (.expression guard)
    if isIdle keep body && isIdle keep otherwise then pure .unit
    else if ← truth item guard.place then runBlock eval depth body keep
    else runBlock eval depth otherwise keep
  | .select item arms _ => do
    select eval depth (← eval depth (.expression item)) arms
  | .repeating guard body _ => repeating eval depth guard body
  | .afterwards body guard wanted _ => afterwards eval depth body guard wanted
  | .each name counter items body _ => iterate eval depth name counter items body
  | .block body _ => runBlock eval depth body keep
  | .leave value _ => do Run.exit (.left (← optional eval depth value))
  | .skip _ => Run.exit .skipped
  | .give value _ => do Run.exit (.given (← optional eval depth value))
  | .raise value place => do Run.fail (.thrown (← optional eval depth value)) place
  | .attempt body caught rescue _ =>
    if blockPure body then pure .unit else attempt eval depth body caught rescue

/-- Runs statements one after the other; what has no effect and no use is left out. -/
def statements (setup : Setup) (eval : Evaluator) (depth : Nat) (keep : Bool) :
    Item → List Stmt → Run Item
  | last, [] => pure last
  | last, s :: rest => do
    if s.isPure && !(keep && rest.isEmpty) then statements setup eval depth keep last rest
    else
      let item ← statement setup eval depth keep s
      statements setup eval depth keep item rest

/-- The evaluator that goes at most `fuel` tasks deep. -/
def evaluator (setup : Setup) : Nat → Evaluator
  | 0, _, _ => Run.exit .exhausted
  | fuel + 1, depth, task =>
    let eval : Evaluator := fun depth task => evaluator setup fuel depth task
    match task with
    | .expression e => expression setup eval depth e
    | .statements body keep => statements setup eval depth keep .unit body

/-- The tasks that may be open at the same time. -/
def taskLimit : Nat := 1000000000

/-- Runs the statements of a script. -/
def script (setup : Setup) (body : List Stmt) : Run Item :=
  evaluator setup taskLimit 0 (.statements body true)

end Evaluation

end Script

end Gamebook
