import Gamebook.Script.Syntax

/-!
# Statements without effect

A statement that only names variables and literals has no effect, and where its value is not used
either it is not run at all, so that a variable which is not there goes unnoticed. What makes up
such a statement is decided here.
-/

namespace Gamebook

namespace Script

mutual

/-- Evaluating the expression can have no effect. -/
def Expr.isPure : Expr → Bool
  | .literal .. => true
  | .joined parts _ => arePure parts
  | .array items _ => arePure items
  | .record fields _ => fieldsPure fields
  | .named .. => true
  | .both left right _ => left.isPure && right.isPure
  | .either left right _ => left.isPure && right.isPure
  | .orElse left right _ => left.isPure && right.isPure
  | .statement body => body.isPure
  | _ => false

/-- Evaluating the expressions can have no effect. -/
def arePure : List Expr → Bool
  | [] => true
  | e :: rest => e.isPure && arePure rest

/-- Evaluating the fields can have no effect. -/
def fieldsPure : List (String × Expr) → Bool
  | [] => true
  | (_, e) :: rest => e.isPure && fieldsPure rest

/-- Running the statement can have no effect. Attempts of what has no effect need no rescue. -/
def Stmt.isPure : Stmt → Bool
  | .value e => e.isPure
  | .branch guard body otherwise _ => guard.isPure && blockPure body && blockPure otherwise
  | .select item arms _ => item.isPure && armsPure arms && hasDefault arms
  | .repeating (some (.literal (.bool false) _)) _ _ => true
  | .afterwards body (.literal (.bool b) _) wanted _ => b != wanted && blockPure body
  | .each _ _ items body _ => items.isPure && blockPure body
  | .block body _ => blockPure body
  | .attempt body _ _ _ => blockPure body
  | _ => false

/-- Running the statements can have no effect. -/
def blockPure : List Stmt → Bool
  | [] => true
  | s :: rest => s.isPure && blockPure rest

/-- Trying the arms can have no effect. -/
def armsPure : List Arm → Bool
  | [] => true
  | .mk _ none body :: rest => body.isPure && armsPure rest
  | .mk _ (some guard) body :: rest => guard.isPure && body.isPure && armsPure rest

/-- One of the arms takes what no other arm takes. -/
def hasDefault : List Arm → Bool
  | [] => false
  | .mk patterns _ _ :: rest => patterns.isEmpty || hasDefault rest

end

end Script

end Gamebook
