import Gamebook.Script.Token

/-!
# What is wrong with a script

Complaints about scripts that cannot be read. `Complaint.message` is the whole wording.
-/

namespace Gamebook

namespace Script

/-- Why a script cannot be read. -/
inductive Fallacy where
  | misspelled (what : Misspelling)
  | unfinished
  | unknownOperator (sign : String)
  /-- A token is missing; `purpose` says what for. -/
  | missing (token purpose : String)
  | badIndex (reason : String)
  | badCapture
  | repeatedProperty (name : String)
  | repeatedVariable (name : String)
  | numberBehindRange
  | defaultNotLast
  | defaultGuarded
  | noProperty
  | noVariable
  | noExpression (kind : String)
  | wrongType (expected found : String)
  | innerFunction
  | repeatedFunction (name : String) (arity : Nat)
  | noFunctionName
  | noParameters (name : String)
  | repeatedParameter (function name : String)
  | noBody (name : String)
  /-- An assignment to a constant; the name is empty for a value without one. -/
  | constant (name : String)
  | notAssignable
  | reserved (word : String)
  /-- A loop is left or continued outside any. -/
  | outsideLoop
  deriving Repr, DecidableEq

/-- The wording of a fallacy. -/
def Fallacy.message : Fallacy → String
  | misspelled what => what.message
  | unfinished => "Script is incomplete"
  | unknownOperator sign => "Unknown operator: '" ++ sign ++ "'"
  | missing token purpose => "Expecting '" ++ token ++ "' " ++ purpose
  | badIndex reason => "Invalid index: " ++ reason
  | badCapture =>
    "Invalid capturing: method-call style does not support running within the caller's scope"
  | repeatedProperty name => "Duplicated property for object map literal: " ++ name
  | repeatedVariable name => "Duplicated variable name: " ++ name
  | numberBehindRange => "Numeric switch case cannot follow a range case"
  | defaultNotLast => "Default switch case must be the last"
  | defaultGuarded => "Default switch case cannot have condition"
  | noProperty => "Expecting name of a property"
  | noVariable => "Expecting name of a variable"
  | noExpression kind => "Expecting " ++ kind ++ " expression"
  | wrongType expected found => "Expecting " ++ expected ++ ", not " ++ found
  | innerFunction =>
    "Function definitions must be at global level and cannot be inside a block or another function"
  | repeatedFunction name arity =>
    "Function " ++ name ++ " with "
      ++ (if arity = 0 then "no parameters"
          else if arity = 1 then "1 parameter"
          else toString arity ++ " parameters")
      ++ " already exists"
  | noFunctionName => "Expecting function name in function declaration"
  | noParameters name => "Expecting parameters for function '" ++ name ++ "'"
  | repeatedParameter function name =>
    "Duplicated parameter " ++ name ++ " for function " ++ function
  | noBody name => "Expecting body statement block for function '" ++ name ++ "'"
  | constant name =>
    if name.isEmpty then "Cannot assign to a constant value"
    else "Cannot assign to constant '" ++ name ++ "'"
  | notAssignable => "Expression cannot be assigned to"
  | reserved word =>
    "'" ++ word ++ "' is a reserved " ++ (if Token.isProperName word then "keyword" else "symbol")
  | outsideLoop => "Break statement should only be used inside a loop"

/-- How a place is shown behind a message. -/
def placeText (place : Place) : String :=
  " (line " ++ toString place.line ++ ", position " ++ toString place.column ++ ")"

/-- A fallacy with its place. Line zero stands for no place. -/
structure Complaint where
  fallacy : Fallacy
  place : Place
  deriving Repr, DecidableEq

namespace Complaint

/-- The place, if there is one. -/
def place? (complaint : Complaint) : Option Place :=
  if complaint.place.line = 0 then none else some complaint.place

/-- The wording of a complaint, with its place. -/
def message (complaint : Complaint) : String :=
  complaint.fallacy.message ++ (complaint.place?.map placeText).getD ""

end Complaint

end Script

end Gamebook
