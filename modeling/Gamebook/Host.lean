import Gamebook.Files.Basic
import Gamebook.Session

/-!
# Hosts

What a player program runs on: a script engine, files, and a clock for dice that nobody has seeded.
The clock is asked again whenever a story starts over.
-/

namespace Gamebook

/-- What a clock reads, each time it is asked. -/
structure Clock where
  reading : Nat → UInt32

/-- A clock that stands still. -/
instance (n : Nat) : OfNat Clock n := ⟨⟨fun _ => OfNat.ofNat n⟩⟩

/-- What a player program runs on. -/
structure Host (m : Type → Type) (σ : Type) where
  engine : Engine σ
  /-- A fresh engine whose dice start from a seed. -/
  fresh : UInt32 → σ
  files : Files m
  /-- A clock, whose seeds differ from time to time. -/
  clock : m Clock

/-- Runs of a player program, which may fail. -/
abbrev Attempt (m : Type → Type) := ExceptT Fault m

namespace Attempt

variable {m : Type → Type} [Monad m] {α : Type}

/-- A result that is there already. -/
def ofExcept (result : Except Fault α) : Attempt m α := ExceptT.mk (pure result)

/-- An operation that fails in the words of the system. -/
def orFault (fault : String → Fault) (operation : m (Except String α)) : Attempt m α :=
  ExceptT.mk ((fun result => result.mapError fault) <$> operation)

end Attempt

/-- The source of a story on a host: its text, and engines with the seed, or each with what the
clock reads by then. -/
def Host.source {m : Type → Type} [Monad m] {σ : Type} (host : Host m σ) (text : String)
    (seed : Option UInt32) : m (Source σ) :=
  match seed with
  | some seed => pure ⟨text, .always (host.fresh seed)⟩
  | none => (fun clock => ⟨text, ⟨fun time => host.fresh (clock.reading time)⟩⟩) <$> host.clock

end Gamebook
