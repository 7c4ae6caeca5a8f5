import Gamebook.Fault
import Gamebook.Value

/-!
# Script engines

A story keeps all that can change in a script engine. An `Engine σ` is a set of total operations
on states of type `σ`: each gives a result or a fault, and the state after it, whether it failed
or not. Nothing is assumed about an engine; what a story promises, it promises for every engine.

* `Engine` : the operations.
* `Engines` : fresh engines, one for each time that a story is loaded.
-/

namespace Gamebook

/-- A script engine whose states have type `σ`. -/
structure Engine (σ : Type) where
  /-- The engine can be used. -/
  isReady : σ → Bool
  /-- Runs statements; gives the value of the last one. -/
  execute : String → σ → Except Fault Value × σ
  /-- Evaluates one expression. -/
  evaluate : String → σ → Except Fault Value × σ
  /-- Reads a variable; one that is not there is `nil`. -/
  read : String → σ → Except Fault Value
  /-- Writes a variable. -/
  write : String → Value → σ → Except Fault Unit × σ
  /-- The variables whose values can be read. -/
  readAll : σ → Variables
  /-- A function or procedure of this name is defined. -/
  hasFunction : String → σ → Bool
  /-- Defines a procedure, which sees the variables and its parameters. -/
  define : String → List String → String → σ → Except Fault Unit × σ
  /-- Calls a procedure or function. -/
  call : String → List Value → σ → Except Fault Value × σ
  /-- Brings in the story helpers. -/
  addHelpers : σ → Except Fault Unit × σ
  /-- The state of the dice, if there are any. -/
  dice? : σ → Option UInt32
  /-- Puts the dice into a state. -/
  setDice : UInt32 → σ → σ

/-- Fresh engines: those that a story is loaded with, one time after the other. -/
structure Engines (σ : Type) where
  ofTime : Nat → σ

namespace Engines

variable {σ : Type}

/-- The same engine each time. -/
def always (engine : σ) : Engines σ := ⟨fun _ => engine⟩

/-- The engine for the next time. -/
def next (engines : Engines σ) : σ := engines.ofTime 0

/-- The engines for the times after the next one. -/
def later (engines : Engines σ) : Engines σ := ⟨fun time => engines.ofTime (time + 1)⟩

end Engines

end Gamebook
