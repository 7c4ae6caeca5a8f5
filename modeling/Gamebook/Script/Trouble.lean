import Gamebook.Script.Complaint

/-!
# What goes wrong in a running script

Causes of failure with their places. `Trouble.message` is the whole wording; `Cause.details` is what
a script that catches a failure can look up about it.
-/

namespace Gamebook

namespace Script

/-- Why a script failed. -/
inductive Cause where
  /-- The script failed on purpose, with a value. -/
  | thrown (item : Item)
  | noVariable (name : String)
  | noFunction (signature : String)
  /-- There is no such property to read or to write. -/
  | noProperty (message : String)
  | arithmetic (message : String)
  | wrongType (expected found : String)
  | constant (name : String)
  /-- A function that changes its first argument was called on a constant. -/
  | constantChanged (function : String)
  | listBounds (size : Nat) (index : Int)
  | textBounds (size : Nat) (index : Int)
  | notIndexed (types : String)
  | badFunctionName (name : String)
  | thisUnbound
  | notIterable
  | tooDeep
  | system (message : String)
  deriving Inhabited

namespace Cause

private def plural (n : Nat) (what : String) : String :=
  toString n ++ " " ++ what ++ (if n = 1 then "" else "s")

/-- The wording of a cause. -/
def message : Cause → String
  | thrown item => if item.toText.isEmpty then "Runtime error" else "Runtime error: " ++ item.toText
  | noVariable name => "Variable not found: " ++ name
  | noFunction signature => "Function not found: " ++ signature
  | noProperty message => message
  | arithmetic message => message
  | wrongType expected found =>
    if found.isEmpty then "Data type incorrect, expecting " ++ expected
    else "Data type incorrect: " ++ found ++ ", expecting " ++ expected
  | constant name => "Cannot modify constant: '" ++ name ++ "'"
  | constantChanged function => "Non-pure method '" ++ function ++ "' cannot be called on constant"
  | listBounds size index =>
    "Array index " ++ toString index ++ " out of bounds: "
      ++ (if size = 0 then "array is empty" else "only " ++ plural size "element" ++ " in array")
  | textBounds size index =>
    "String index " ++ toString index ++ " out of bounds: "
      ++ (if size = 0 then "string is empty"
          else "only " ++ plural size "character" ++ " in string")
  | notIndexed types => "Indexer unavailable: " ++ types
  | badFunctionName name => "Function not found: " ++ name
  | thisUnbound => "'this' not bound"
  | notIterable => "For loop expects iterable type"
  | tooDeep => "Stack overflow"
  | system message => message

/-- The name of a cause. -/
def title : Cause → String
  | thrown _ => "ErrorRuntime"
  | noVariable _ => "ErrorVariableNotFound"
  | noFunction _ => "ErrorFunctionNotFound"
  | noProperty _ => "ErrorDotExpr"
  | arithmetic _ => "ErrorArithmetic"
  | wrongType .. => "ErrorMismatchDataType"
  | constant _ => "ErrorAssignmentToConstant"
  | constantChanged _ => "ErrorNonPureMethodCallOnConstant"
  | listBounds .. => "ErrorArrayBounds"
  | textBounds .. => "ErrorStringBounds"
  | notIndexed _ => "ErrorIndexingType"
  | badFunctionName _ => "ErrorFunctionNotFound"
  | thisUnbound => "ErrorUnboundThis"
  | notIterable => "ErrorFor"
  | tooDeep => "ErrorStackOverflow"
  | system _ => "ErrorSystem"

/-- What a script can look up about a cause. -/
def details : Cause → List (String × Item)
  | noVariable name => [("variable", .text name)]
  | constant name => [("variable", .text name)]
  | noFunction signature => [("function", .text signature)]
  | badFunctionName name => [("function", .text name)]
  | constantChanged function => [("function", .text function)]
  | wrongType expected found => [("requested", .text expected), ("actual", .text found)]
  | listBounds size index =>
    [("length", .int (Int64.ofNat size)), ("index", .int (Int64.ofInt index))]
  | textBounds size index =>
    [("length", .int (Int64.ofNat size)), ("index", .int (Int64.ofInt index))]
  | notIndexed types => [("type", .text types)]
  | _ => []

end Cause

/-- A cause with its place, and the calls that it passed on its way out, innermost first. -/
structure Trouble where
  cause : Cause
  place : Option Place := none
  calls : List (String × Option Place) := []
  deriving Inhabited

namespace Trouble

private def placeSuffix (place : Option Place) : String := (place.map placeText).getD ""

/-- The wording of a failure. -/
def message (trouble : Trouble) : String :=
  trouble.calls.foldl
    (fun text call => text ++ "\nin call to function '" ++ call.1 ++ "'" ++ placeSuffix call.2)
    (trouble.cause.message ++ placeSuffix trouble.place)

/-- The failure with a place, unless it has one. -/
def at_ (trouble : Trouble) (place : Place) : Trouble :=
  { trouble with place := trouble.place.or (some place) }

/-- The failure on its way out of a call. -/
def leaving (trouble : Trouble) (function : String) (place : Option Place) : Trouble :=
  { trouble with calls := trouble.calls ++ [(function, place)] }

/-- Scripts can catch the failure. -/
def isCatchable (trouble : Trouble) : Bool :=
  match trouble.cause with
  | .tooDeep => false
  | _ => true

/-- What a script that catches the failure gets. -/
def caught (trouble : Trouble) : Item :=
  match trouble.cause with
  | .thrown item => item
  | cause =>
    let outer := match trouble.calls.getLast? with
      | some (_, place) => place
      | none => trouble.place
    let location : List (String × Item) := match outer with
      | some place =>
        [("line", .int (Int64.ofNat place.line)), ("position", .int (Int64.ofNat place.column))]
      | none => []
    let named : List (String × Item) :=
      match trouble.calls.getLast? with
      | none => ("error", .text cause.title) :: cause.details
      | some (function, _) =>
        [("error", .text "ErrorInFunctionCall"), ("function", .text function),
          ("source", .text "")]
    let text := match trouble.calls.reverse with
      | [] => cause.message
      | (function, _) :: inner =>
        ({ trouble with calls := inner.reverse } : Trouble).message
          ++ "\nin call to function '" ++ function ++ "'"
    .record (Fields.sorted (named ++ [("message", .text text)] ++ location))

end Trouble

end Script

end Gamebook
