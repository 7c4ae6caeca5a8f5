import Gamebook.Fault
import Gamebook.Script.Item

/-!
# Syntax of scripts

Expressions, chains of accesses, and statements. A chain is a root with links, each of which looks
into what stands before it, so that an assignment and a method can change the root through them.
-/

namespace Gamebook

namespace Script

mutual

/-- An expression. The place is that of its operator or first token. -/
inductive Expr where
  | literal (item : Item) (place : Place)
  /-- Text with embedded blocks; the values of the parts are joined. -/
  | joined (parts : List Expr) (place : Place)
  | array (items : List Expr) (place : Place)
  | record (fields : List (String × Expr)) (place : Place)
  /-- A variable, and whether the script itself declares it. -/
  | named (name : String) (declared : Bool) (place : Place)
  /-- What a function was called on. -/
  | this (place : Place)
  /-- Both are true; the second is evaluated only if the first is. -/
  | both (left right : Expr) (place : Place)
  /-- One of them is true; the second is evaluated only if the first is not. -/
  | either (left right : Expr) (place : Place)
  /-- The first, or the second if the first is unit. -/
  | orElse (left right : Expr) (place : Place)
  | operator (sign : String) (operands : List Expr) (place : Place)
  /-- The container, first, holds the member. -/
  | membership (container member : Expr) (place : Place)
  | call (function : String) (arguments : List Expr) (place : Place)
  | chain (root : Expr) (links : List Link)
  /-- A statement in the place of an expression. -/
  | statement (body : Stmt)

/-- A look into what stands before it. A guarded link gives unit if that is unit. -/
inductive Link where
  | property (name : String) (guarded : Bool) (place : Place)
  | index (key : Expr) (guarded : Bool) (place : Place)
  | method (name : String) (arguments : List Expr) (guarded : Bool) (place : Place)

/-- A statement. -/
inductive Stmt where
  /-- An expression for its effect or value. -/
  | value (e : Expr)
  | declare (name : String) (constant : Bool) (value : Option Expr) (place : Place)
  /-- Writes to a variable or chain, maybe through an operator. -/
  | assign (sign : Option String) (target value : Expr) (place : Place)
  | branch (guard : Expr) (body otherwise : List Stmt) (place : Place)
  | select (item : Expr) (arms : List Arm) (place : Place)
  /-- Repeats while the guard is true; without a guard, for ever. -/
  | repeating (guard : Option Expr) (body : List Stmt) (place : Place)
  /-- Repeats after each turn for which the guard has the wanted value. -/
  | afterwards (body : List Stmt) (guard : Expr) (wanted : Bool) (place : Place)
  | each (name : String) (counter : Option String) (items : Expr) (body : List Stmt)
      (place : Place)
  | block (body : List Stmt) (place : Place)
  /-- Ends a loop, maybe with a value. -/
  | leave (value : Option Expr) (place : Place)
  /-- Ends a turn of a loop. -/
  | skip (place : Place)
  /-- Ends a function or script with a value. -/
  | give (value : Option Expr) (place : Place)
  /-- Fails with a value. -/
  | raise (value : Option Expr) (place : Place)
  | attempt (body : List Stmt) (caught : Option String) (rescue : List Stmt) (place : Place)

/-- A case of a selection. An arm without patterns takes what no other arm takes. -/
inductive Arm where
  | mk (patterns : List Item) (guard : Option Expr) (body : Stmt)

end

instance : Inhabited Expr := ⟨.literal .unit ⟨0, 0⟩⟩

instance : Inhabited Stmt := ⟨.block [] ⟨0, 0⟩⟩

/-- A named function of a script. -/
structure Function where
  name : String
  params : List String
  body : List Stmt

/-- What a script consists of. -/
structure Program where
  functions : List Function
  body : List Stmt

/-- The place where an expression starts, as complaints about it say. -/
def Expr.place : Expr → Place
  | literal _ place => place
  | joined _ place => place
  | array _ place => place
  | record _ place => place
  | named _ _ place => place
  | this place => place
  | both _ _ place => place
  | either _ _ place => place
  | orElse _ _ place => place
  | operator _ _ place => place
  | membership _ _ place => place
  | call _ _ place => place
  | chain root _ => root.place
  | statement body =>
    match body with
    | .value e => e.place
    | .declare _ _ _ place => place
    | .assign _ _ _ place => place
    | .branch _ _ _ place => place
    | .select _ _ place => place
    | .repeating _ _ place => place
    | .afterwards _ _ _ place => place
    | .each _ _ _ _ place => place
    | .block _ place => place
    | .leave _ place => place
    | .skip place => place
    | .give _ place => place
    | .raise _ place => place
    | .attempt _ _ _ place => place

mutual

/-- The item that an expression stands for, if it is the same every time. -/
def Expr.literal? : Expr → Option Item
  | .literal item _ => some item
  | .array items _ => (literals? items).map .array
  | .record fields _ => (fieldLiterals? fields).map (fun fs => .record (Fields.sorted fs))
  | _ => none

/-- The items that expressions stand for, if they are the same every time. -/
def literals? : List Expr → Option (List Item)
  | [] => some []
  | e :: rest =>
    match e.literal?, literals? rest with
    | some item, some items => some (item :: items)
    | _, _ => none

/-- The fields that expressions stand for, if they are the same every time. -/
def fieldLiterals? : List (String × Expr) → Option (List (String × Item))
  | [] => some []
  | (name, e) :: rest =>
    match e.literal?, fieldLiterals? rest with
    | some item, some items => some ((name, item) :: items)
    | _, _ => none

end

end Script

end Gamebook
