import Gamebook.Engine
import Gamebook.Script.Evaluation
import Gamebook.Script.Grammar

/-!
# The script interpreter as an engine

A scope that outlives scripts, the functions that scripts have defined, and procedures that the host
has defined. Statements leave what they declare in the scope, which is compacted after every script;
expressions, procedures and functions leave nothing there, whatever happens in them.
-/

namespace Gamebook

namespace Script

/-- A body that the host calls by name. Unlike a function it sees the variables. -/
structure Procedure where
  params : List String
  body : Program

/-- The state of the interpreter. -/
structure Interpreter where
  scope : Scope := []
  functions : List Function := []
  procedures : Fields Procedure := []
  dice : UInt32
  helpers : Bool := false

namespace Interpreter

/-- A fresh interpreter with dice in some state. -/
def seeded (seed : UInt32) : Interpreter := { dice := seed }

/-- The fault of a script that cannot be read. -/
def misread (complaint : Complaint) : Fault :=
  .engine "SCRIPT_COMPILE" ("Script compile failed: " ++ complaint.message) complaint.place?

/-- The fault of a script that failed. -/
def failed (message : String) : Fault :=
  .engine "SCRIPT_RUNTIME" ("Script eval failed: " ++ message) none

/-- The fault of an item that has no value. -/
def unsupported (type : String) : Fault :=
  .engine "SCRIPT_VALUE_UNSUPPORTED" ("Unsupported script value of type \"" ++ type ++ "\".") none

/-- The fault of a call of what is not there. -/
def undefined (name : String) : Fault :=
  .engine "SCRIPT_FUNCTION_NOT_FOUND" ("Function \"" ++ name ++ "\" is not defined.") none

/-- The fault of writing to a constant. -/
def constant (name : String) : Fault :=
  .engine "SCRIPT_CONSTANT" ("Global \"" ++ name ++ "\" is a constant and cannot be assigned.") none

/-- The value of an item, for the host. -/
def valueOf (item : Item) : Except Fault Value :=
  match item.toValue with
  | .ok value => .ok value
  | .error type => .error (unsupported type)

/-- What a script ends with, for the host. -/
def resultOf : Except Exit Item → Except Fault Value
  | .ok item => valueOf item
  | .error (.given item) => valueOf item
  | .error (.stopped item) => valueOf item
  | .error (.left item) => valueOf item
  | .error .skipped => .ok .nil
  | .error (.failed trouble) => .error (failed trouble.message)
  | .error .exhausted => .error (failed "Too many operations")

/-- Functions with others that take their place. -/
def merge (older newer : List Function) : List Function :=
  newer ++ older.filter (fun f =>
    !newer.any (fun g => g.name == f.name && g.params.length == f.params.length))

/-- What a script runs with. -/
def setupWith (it : Interpreter) (functions : List Function) : Setup :=
  ⟨merge it.functions functions, it.helpers⟩

/-- The variables and dice that scripts work on. -/
def world (it : Interpreter) : World := ⟨it.scope, it.dice⟩

/-- The interpreter after a run. -/
def withWorld (it : Interpreter) (w : World) : Interpreter :=
  { it with scope := w.scope, dice := w.dice }

/-- Runs something whose new variables go out of view at its end. -/
def enclosed (run : Run Item) (it : Interpreter) : Except Fault Value × Interpreter :=
  let (result, after) := run.locally.start it.world
  (resultOf result, it.withWorld after.1)

/-- Runs statements. What they declare stays, one binding for each name; functions that they define
stay even if they fail. -/
def execute (code : String) (it : Interpreter) : Except Fault Value × Interpreter :=
  match Program.ofText code with
  | .error complaint => (.error (misread complaint), it)
  | .ok program =>
    let it := { it with functions := merge it.functions program.functions }
    let (result, after) := (Evaluation.script (it.setupWith []) program.body).start it.world
    (resultOf result, { it with scope := after.1.scope.compact, dice := after.1.dice })

/-- Evaluates an expression. -/
def evaluate (code : String) (it : Interpreter) : Except Fault Value × Interpreter :=
  match Expr.ofText code with
  | .error complaint => (.error (misread complaint), it)
  | .ok e => enclosed (Evaluation.script (it.setupWith []) [.value e]) it

/-- Reads a variable. -/
def read (name : String) (it : Interpreter) : Except Fault Value :=
  match Scope.find? name it.scope with
  | some b => valueOf b.value
  | none => .ok .nil

/-- Writes a variable. -/
def write (name : String) (value : Value) (it : Interpreter) : Except Fault Unit × Interpreter :=
  if (Scope.find? name it.scope).any Binding.constant then (.error (constant name), it)
  else (.ok (), { it with scope := Scope.put name (.ofValue value) it.scope })

/-- The variables that have values. -/
def readAll (it : Interpreter) : Variables :=
  Fields.sorted (it.scope.filterMap (fun b =>
    match b.value.toValue with
    | .ok value => some (b.name, value)
    | .error _ => none))

/-- Some script function has this name. -/
def hasScripted (name : String) (it : Interpreter) : Bool :=
  it.functions.any (fun f => f.name == name)

/-- A procedure or script function has this name. -/
def hasFunction (name : String) (it : Interpreter) : Bool :=
  Fields.has name it.procedures || it.hasScripted name

/-- Defines a procedure. -/
def define (name : String) (params : List String) (body : String) (it : Interpreter) :
    Except Fault Unit × Interpreter :=
  match Program.ofText body with
  | .error complaint => (.error (misread complaint), it)
  | .ok program =>
    (.ok (), { it with procedures := Fields.insert name ⟨params, program⟩ it.procedures })

/-- Brings parameters into view; those without arguments are unit. -/
def bindParams : List String → List Item → Run Unit
  | [], _ => pure ()
  | p :: ps, [] => do
    Run.declare p false .unit
    bindParams ps []
  | p :: ps, a :: as => do
    Run.declare p false a
    bindParams ps as

/-- The body of a procedure with its parameters in view. -/
def procedureRun (it : Interpreter) (procedure : Procedure) (args : List Item) : Run Item := do
  bindParams procedure.params args
  Evaluation.script (it.setupWith procedure.body.functions) procedure.body.body

/-- The body of a script function, which the host lets see the variables. -/
def functionRun (it : Interpreter) (f : Function) (args : List Item) : Run Item := do
  bindParams f.params args
  match ← Run.outcome (Evaluation.evaluator (it.setupWith []) Evaluation.taskLimit 1
      (.statements f.body true)) with
  | .error (.failed trouble) =>
    if trouble.isCatchable then Run.exit (.failed (trouble.leaving f.name none))
    else Run.exit (.failed trouble)
  | result => Run.ofExcept result

/-- Calls a procedure with as many arguments as there are, or a script function with the right
number of them. -/
def call (name : String) (args : List Value) (it : Interpreter) :
    Except Fault Value × Interpreter :=
  let items := args.map Item.ofValue
  match Fields.find? name it.procedures with
  | some procedure => enclosed (it.procedureRun procedure items) it
  | none =>
    if !it.hasScripted name then (.error (undefined name), it)
    else match (it.setupWith []).function? name items.length with
      | some f => enclosed (it.functionRun f items) it
      | none => (.error (failed ("Function not found: " ++ name)), it)

end Interpreter

/-- The interpreter as an engine for stories. -/
def engine : Engine Interpreter where
  isReady := fun _ => true
  execute := Interpreter.execute
  evaluate := Interpreter.evaluate
  read := Interpreter.read
  write := Interpreter.write
  readAll := Interpreter.readAll
  hasFunction := Interpreter.hasFunction
  define := Interpreter.define
  call := Interpreter.call
  addHelpers := fun it => (.ok (), { it with helpers := true })
  dice? := fun it => some it.dice
  setDice := fun dice it => { it with dice := dice }

end Script

/-- Fresh interpreters whose dice start from the same seed each time. -/
def Engines.seeded (seed : UInt32) : Engines Script.Interpreter := .always (.seeded seed)

end Gamebook
