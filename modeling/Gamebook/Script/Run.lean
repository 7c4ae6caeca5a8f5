import Gamebook.Dice
import Gamebook.Script.Scope
import Gamebook.Script.Trouble

/-!
# Running scripts

A run is a step from one world (the variables in view and the state of the dice) to another, with a
result or with the reason why there is none; the world after a failure counts as well. Every run
keeps what stood in view before it: it may bring new variables into view and write to old ones, but
takes no variable away, renames none and turns none into a constant. That is part of the type: a run
works over any class of shapes that the oldest part of the scope may belong to, and the part
stays in the class. So nothing has to be proved about the scripts that are run.

* `World.Over` : the oldest variables have a shape of some class.
* `Run.locally` : a run after which the new variables are out of view again.
* `Run.elsewhere` : a run over variables of its own.
-/

namespace Gamebook

namespace Script

/-- What a running script can read and change. -/
structure World where
  scope : Scope
  dice : UInt32

/-- The oldest variables have a shape of this class. -/
def World.Over (base : Shape → Prop) (w : World) : Prop :=
  ∃ fresh old, w.scope.shape = fresh ++ old ∧ base old

/-- Why a run has no result. -/
inductive Exit where
  | failed (trouble : Trouble)
  /-- The function or script is left with a value. -/
  | given (item : Item)
  /-- The loop is left with a value. -/
  | left (item : Item)
  /-- The turn of the loop is over. -/
  | skipped
  /-- The script is left with a value, functions and all. -/
  | stopped (item : Item)
  /-- The run went on for too long. -/
  | exhausted
  deriving Inhabited

/-- A step from world to world, with a result or the reason why there is none. -/
def Run (α : Type) : Type :=
  (base : Shape → Prop) → {w : World // w.Over base} → Except Exit α × {w : World // w.Over base}

namespace Run

/-- A result, in the same world. -/
@[inline] def pure {α : Type} (a : α) : Run α := fun _ w => (.ok a, w)

/-- One run after the other. -/
@[inline] def bind {α β : Type} (run : Run α) (f : α → Run β) : Run β := fun base w =>
  match run base w with
  | (.ok a, after) => f a base after
  | (.error exit, after) => (.error exit, after)

instance : Monad Run where
  pure := Run.pure
  bind := Run.bind

/-- No result. -/
@[inline] def exit {α : Type} (reason : Exit) : Run α := fun _ w => (.error reason, w)

/-- Failure at a place. -/
def fail {α : Type} (cause : Cause) (place : Place) : Run α :=
  exit (.failed { cause := cause, place := some place })

/-- What a run ends with, as a result. -/
@[inline] def outcome {α : Type} (run : Run α) : Run (Except Exit α) := fun base w =>
  match run base w with
  | (result, after) => (.ok result, after)

/-- Ends with a result or the reason why there is none. -/
@[inline] def ofExcept {α : Type} : Except Exit α → Run α
  | .ok a => pure a
  | .error reason => exit reason

/-- The variables in view. -/
@[inline] def scope : Run Scope := fun _ w => (.ok w.1.scope, w)

/-- The newest binding of a name. -/
def find? (name : String) : Run (Option Binding) := do
  return Scope.find? name (← scope)

/-- Brings a variable or constant into view. -/
def declare (name : String) (constant : Bool) (value : Item) : Run Unit := fun _ w =>
  (.ok (), ⟨{ w.1 with scope := w.1.scope.declare name constant value }, by
    obtain ⟨fresh, old, h, hold⟩ := w.2
    exact ⟨(name, constant) :: fresh, old, by simp [Scope.declare, h], hold⟩⟩)

/-- Gives the newest binding of a name another value. -/
def write (name : String) (value : Item) : Run Unit := fun _ w =>
  (.ok (), ⟨{ w.1 with scope := w.1.scope.write name value }, by
    obtain ⟨fresh, old, h, hold⟩ := w.2
    exact ⟨fresh, old, by simpa using h, hold⟩⟩)

/-- Rolls dice. -/
def roll {α : Type} (draw : UInt32 → α × UInt32) : Run α := fun _ w =>
  match draw w.1.dice with
  | (a, dice) => (.ok a, ⟨{ w.1 with dice := dice }, w.2⟩)

/-- A run after which the variables that it brought into view are out of view again. -/
def locally {α : Type} (run : Run α) : Run α := fun _ w =>
  match run (· = w.1.scope.shape) ⟨w.1, ⟨[], _, rfl, rfl⟩⟩ with
  | (result, after) =>
    (result, ⟨{ after.1 with scope := after.1.scope.rewind w.1.scope.length }, by
      obtain ⟨fresh, old, h, rfl⟩ := after.2
      have hs := Scope.shape_rewind h
      rw [Scope.length_shape] at hs
      obtain ⟨older, base, hb, hbase⟩ := w.2
      exact ⟨older, base, by rw [← hb]; exact hs, hbase⟩⟩)

/-- A run over variables of its own; gives what it ends with and its variables. -/
def elsewhere {α : Type} (own : Scope) (run : Run α) : Run (Except Exit α × Scope) := fun _ w =>
  match run (fun _ => True) ⟨{ w.1 with scope := own }, ⟨[], own.shape, rfl, trivial⟩⟩ with
  | (result, after) => (.ok (result, after.1.scope), ⟨{ w.1 with dice := after.1.dice }, w.2⟩)

/-- Repeats a turn with what it hands on, until it gives something. -/
def untilDone {α β : Type} (turn : α → Run (Except α β)) : Nat → α → Run β
  | 0, _ => exit .exhausted
  | fuel + 1, a => fun base w =>
    match turn a base w with
    | (.ok (.ok b), after) => (.ok b, after)
    | (.ok (.error next), after) => untilDone turn fuel next base after
    | (.error reason, after) => (.error reason, after)

/-- What a run does to a world. The shape of the scope at the start stays below what is new. -/
def start {α : Type} (run : Run α) (w : World) :
    Except Exit α × {after : World // after.Over (· = w.scope.shape)} :=
  run (· = w.scope.shape) ⟨w, ⟨[], _, rfl, rfl⟩⟩

end Run

end Script

end Gamebook
