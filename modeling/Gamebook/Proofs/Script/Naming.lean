import Gamebook.Script.Evaluation

/-!
# The names that scripts read

A script reads a variable by naming it. It brings some of the variables that it reads into view
itself; the others have to be there already. Whether a set of names covers those is decided by the
syntax alone, except that `is_def_var` may ask for any name.

* `Names` : sets of names, of which one holds all.
* `Expr.within`, `Stmt.within`, `Program.within` : a set covers what is read and not brought along.
* `blockWithin_all` : the set of all names covers every block.
-/

namespace Gamebook

namespace Script

/-- Names of variables: all that there are, or some. -/
inductive Names where
  | all
  | only (names : List String)
  deriving Repr, DecidableEq

namespace Names

/-- The name is among them. -/
def has : Names → String → Bool
  | all, _ => true
  | only names, name => names.contains name

/-- No name is missing. -/
def isAll : Names → Bool
  | all => true
  | only _ => false

/-- The names with one more. -/
def insert (name : String) : Names → Names
  | all => all
  | only names => only (name :: names)

/-- The names with some more, the last of which comes last. -/
def insertAll (known : Names) (names : List String) : Names :=
  names.foldl (fun known name => known.insert name) known

@[simp] theorem isAll_insert (known : Names) (name : String) :
    (known.insert name).isAll = known.isAll := by
  cases known <;> rfl

@[simp] theorem has_insert (known : Names) (name other : String) :
    (known.insert name).has other = (other == name || known.has other) := by
  cases known with
  | all => simp [insert, has]
  | only names => exact List.contains_cons

theorem has_of_isAll {known : Names} (h : known.isAll = true) (name : String) :
    known.has name = true := by
  cases known with
  | all => rfl
  | only names => cases h

@[simp] theorem insert_all (name : String) : all.insert name = all := rfl

@[simp] theorem insertAll_all (names : List String) : all.insertAll names = all := by
  unfold insertAll
  induction names with
  | nil => rfl
  | cons name rest ih => exact ih

end Names

/-- The name that a statement brings into view for those that come after it. -/
def Stmt.brings : Stmt → List String
  | .declare name _ _ _ => [name]
  | _ => []

mutual

/-- The names cover what the expression reads. -/
def Expr.within (known : Names) : Expr → Bool
  | .literal .. => true
  | .joined parts _ => areWithin known parts
  | .array items _ => areWithin known items
  | .record fields _ => fieldsWithin known fields
  | .named name _ _ => known.has name
  | .this _ => known.has Evaluation.thisName
  | .both left right _ => left.within known && right.within known
  | .either left right _ => left.within known && right.within known
  | .orElse left right _ => left.within known && right.within known
  | .operator _ operands _ => areWithin known operands
  | .membership container member _ => container.within known && member.within known
  | .call name args _ => (name != "is_def_var" || known.isAll) && areWithin known args
  | .chain root links => root.within known && linksWithin known links
  | .statement body => body.within known

/-- The names cover what the expressions read. -/
def areWithin (known : Names) : List Expr → Bool
  | [] => true
  | e :: rest => e.within known && areWithin known rest

/-- The names cover what the fields read. -/
def fieldsWithin (known : Names) : List (String × Expr) → Bool
  | [] => true
  | (_, e) :: rest => e.within known && fieldsWithin known rest

/-- The names cover what the links read. -/
def linksWithin (known : Names) : List Link → Bool
  | [] => true
  | .property .. :: rest => linksWithin known rest
  | .index key _ _ :: rest => key.within known && linksWithin known rest
  | .method _ args _ _ :: rest => areWithin known args && linksWithin known rest

/-- The names cover what the statement reads. -/
def Stmt.within (known : Names) : Stmt → Bool
  | .value e => e.within known
  | .declare _ _ none _ => true
  | .declare _ _ (some e) _ => e.within known
  | .assign _ target value _ => target.within known && value.within known
  | .branch guard body otherwise _ =>
    guard.within known && blockWithin known body && blockWithin known otherwise
  | .select item arms _ => item.within known && armsWithin known arms
  | .repeating none body _ => blockWithin known body
  | .repeating (some guard) body _ => guard.within known && blockWithin known body
  | .afterwards body guard _ _ => blockWithin known body && guard.within known
  | .each name counter items body _ =>
    items.within known && blockWithin ((known.insertAll counter.toList).insert name) body
  | .block body _ => blockWithin known body
  | .leave none _ => true
  | .leave (some e) _ => e.within known
  | .skip _ => true
  | .give none _ => true
  | .give (some e) _ => e.within known
  | .raise none _ => true
  | .raise (some e) _ => e.within known
  | .attempt body caught rescue _ =>
    blockWithin known body && blockWithin (known.insertAll caught.toList) rescue

/-- The names cover what the statements read, each with what those before it bring along. -/
def blockWithin (known : Names) : List Stmt → Bool
  | [] => true
  | s :: rest => s.within known && blockWithin (known.insertAll s.brings) rest

/-- The names cover what the arms read. -/
def armsWithin (known : Names) : List Arm → Bool
  | [] => true
  | .mk _ none body :: rest => body.within known && armsWithin known rest
  | .mk _ (some guard) body :: rest =>
    guard.within known && body.within known && armsWithin known rest

end

/-- The names cover what the body of a function reads besides its parameters. -/
def Function.within (known : Names) (f : Function) : Bool :=
  blockWithin (known.insertAll f.params) f.body

/-- The names cover what the program and its functions read. -/
def Program.within (known : Names) (program : Program) : Bool :=
  blockWithin known program.body && program.functions.all (Function.within known)

mutual

theorem Expr.within_all : ∀ e : Expr, e.within .all = true
  | .literal .. => rfl
  | .joined parts _ => areWithin_all parts
  | .array items _ => areWithin_all items
  | .record fields _ => fieldsWithin_all fields
  | .named .. => rfl
  | .this _ => rfl
  | .both left right _ => by rw [Expr.within, left.within_all, right.within_all]; rfl
  | .either left right _ => by rw [Expr.within, left.within_all, right.within_all]; rfl
  | .orElse left right _ => by rw [Expr.within, left.within_all, right.within_all]; rfl
  | .operator _ operands _ => areWithin_all operands
  | .membership container member _ => by
    rw [Expr.within, container.within_all, member.within_all]; rfl
  | .call name args _ => by rw [Expr.within, areWithin_all args]; simp [Names.isAll]
  | .chain root links => by rw [Expr.within, root.within_all, linksWithin_all links]; rfl
  | .statement body => body.within_all

theorem areWithin_all : ∀ es : List Expr, areWithin .all es = true
  | [] => rfl
  | e :: rest => by rw [areWithin, e.within_all, areWithin_all rest]; rfl

theorem fieldsWithin_all : ∀ fields : List (String × Expr), fieldsWithin .all fields = true
  | [] => rfl
  | (_, e) :: rest => by rw [fieldsWithin, e.within_all, fieldsWithin_all rest]; rfl

theorem linksWithin_all : ∀ links : List Link, linksWithin .all links = true
  | [] => rfl
  | .property .. :: rest => linksWithin_all rest
  | .index key _ _ :: rest => by rw [linksWithin, key.within_all, linksWithin_all rest]; rfl
  | .method _ args _ _ :: rest => by
    rw [linksWithin, areWithin_all args, linksWithin_all rest]; rfl

theorem Stmt.within_all : ∀ s : Stmt, s.within .all = true
  | .value e => e.within_all
  | .declare _ _ none _ => rfl
  | .declare _ _ (some e) _ => e.within_all
  | .assign _ target value _ => by rw [Stmt.within, target.within_all, value.within_all]; rfl
  | .branch guard body otherwise _ => by
    rw [Stmt.within, guard.within_all, blockWithin_all body, blockWithin_all otherwise]; rfl
  | .select item arms _ => by rw [Stmt.within, item.within_all, armsWithin_all arms]; rfl
  | .repeating none body _ => blockWithin_all body
  | .repeating (some guard) body _ => by
    rw [Stmt.within, guard.within_all, blockWithin_all body]; rfl
  | .afterwards body guard _ _ => by
    rw [Stmt.within, blockWithin_all body, guard.within_all]; rfl
  | .each name counter items body _ => by
    rw [Stmt.within, items.within_all, Names.insertAll_all, Names.insert_all, blockWithin_all body]
    rfl
  | .block body _ => blockWithin_all body
  | .leave none _ => rfl
  | .leave (some e) _ => e.within_all
  | .skip _ => rfl
  | .give none _ => rfl
  | .give (some e) _ => e.within_all
  | .raise none _ => rfl
  | .raise (some e) _ => e.within_all
  | .attempt body caught rescue _ => by
    rw [Stmt.within, blockWithin_all body, Names.insertAll_all, blockWithin_all rescue]; rfl

theorem blockWithin_all : ∀ body : List Stmt, blockWithin .all body = true
  | [] => rfl
  | s :: rest => by
    rw [blockWithin, s.within_all, Names.insertAll_all, blockWithin_all rest]; rfl

theorem armsWithin_all : ∀ arms : List Arm, armsWithin .all arms = true
  | [] => rfl
  | .mk _ none body :: rest => by rw [armsWithin, body.within_all, armsWithin_all rest]; rfl
  | .mk _ (some guard) body :: rest => by
    rw [armsWithin, guard.within_all, body.within_all, armsWithin_all rest]; rfl

end

end Script

end Gamebook
