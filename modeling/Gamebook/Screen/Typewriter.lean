/-!
# Typewriter text

Lines that appear character by character. Each tick reveals one more character of the line that is
being typed, lays a finished line aside, or takes the next line from the queue; an empty line is
laid aside at once. Skipping shows everything that is still queued.

* `Typewriter.script` : all lines, which neither a tick nor skipping changes.
* `Typewriter.tick`, `Typewriter.skip`.
-/

namespace Gamebook

/-- A line that is being typed, and how many of its characters have appeared. -/
structure TypedLine where
  line : String
  typed : Nat

/-- Lines that have appeared, the line that is being typed, and lines that wait. -/
structure Typewriter where
  shown : List String := []
  typing : Option TypedLine := none
  queued : List String := []

namespace Typewriter

/-- All lines in order, whether they have appeared or not. -/
def script (t : Typewriter) : List String :=
  t.shown ++ (t.typing.map (·.line)).toList ++ t.queued

/-- Something has not appeared yet. -/
def isBusy (t : Typewriter) : Bool := t.typing.isSome || !t.queued.isEmpty

/-- A blank sheet with lines that wait. -/
def ofLines (lines : List String) : Typewriter := { queued := lines }

/-- More lines that wait. -/
def enqueue (lines : List String) (t : Typewriter) : Typewriter :=
  { t with queued := t.queued ++ lines }

/-- One step; tells whether there was anything left to do. -/
def tick (t : Typewriter) : Bool × Typewriter :=
  match t.typing with
  | some current =>
    if current.line.length ≤ current.typed then
      (true, { t with shown := t.shown ++ [current.line], typing := none })
    else (true, { t with typing := some { current with typed := current.typed + 1 } })
  | none =>
    match t.queued with
    | [] => (false, t)
    | line :: rest =>
      if line = "" then (true, { t with shown := t.shown ++ [line], queued := rest })
      else (true, { t with typing := some { line, typed := 1 }, queued := rest })

/-- Several steps; tells of each whether there was anything left to do. -/
def ticks : Nat → Typewriter → List Bool × Typewriter
  | 0, t => ([], t)
  | n + 1, t =>
    let first := t.tick
    let others := ticks n first.2
    (first.1 :: others.1, others.2)

/-- Shows everything at once. -/
def skip (t : Typewriter) : Typewriter := { shown := t.script }

/-- The lines to be seen: those that have appeared, and what has appeared of the one being typed. -/
def visible (t : Typewriter) : List String :=
  t.shown ++ (t.typing.map (fun current =>
    String.ofList (current.line.toList.take current.typed))).toList

/-- A tick changes nothing about the lines. -/
@[simp] theorem script_tick (t : Typewriter) : t.tick.2.script = t.script := by
  obtain ⟨shown, typing, queued⟩ := t
  cases typing with
  | some current => simp only [tick]; split <;> simp [script]
  | none =>
    cases queued with
    | nil => rfl
    | cons line rest => simp only [tick]; split <;> simp_all [script]

end Typewriter

end Gamebook
