import Gamebook.Choice
import Gamebook.Save

/-!
# Sections in play

A section with its progress: how often it was entered and which of its options are hidden. Entering
counts the visit first, then empties the scratch record, binds the section and runs its code.
-/

namespace Gamebook

/-- A section in play. -/
structure Section where
  id : String
  /-- The title, if it is not blank. -/
  title : Option String
  /-- The text template. -/
  text : String
  /-- The code that runs on every visit. -/
  run : Option String
  /-- The private variables it starts with. -/
  vars : Variables
  choices : Fields Choice
  visits : UInt32 := 0

namespace Section

variable {σ : Type}

/-- A section as it is at the start. -/
def ofSpec (id : String) (spec : SectionSpec) : Section :=
  { id
    title := spec.title.bind Text.nonBlank
    text := spec.text
    run := spec.run.bind Text.nonBlank
    vars := spec.vars
    choices := spec.options.map (fun (optionId, option) =>
      (optionId, Choice.ofSpec optionId id option)) }

/-- The title that is shown: the id stands in for a missing one. -/
def shownTitle (s : Section) : String := s.title.getD s.id

/-- The next visit count; the largest stays. -/
def nextVisit (visits : UInt32) : UInt32 :=
  if visits = 4294967295 then visits else visits + 1

/-- The options that can be chosen now, in order; evaluates the guards of those whose gates are
open. -/
def availableOf (E : Engine σ) (visits : UInt32) :
    Fields Choice → Stage σ → List Choice × Stage σ
  | [], st => ([], st)
  | (_, choice) :: rest, st =>
    let tested := choice.isAvailable E visits st
    let others := availableOf E visits rest tested.2
    (if tested.1 then choice :: others.1 else others.1, others.2)

/-- The options of the section that can be chosen now. -/
def available (E : Engine σ) (s : Section) (st : Stage σ) : List Choice × Stage σ :=
  availableOf E s.visits s.choices st

/-- Binds the section without counting a visit. -/
def rebind (E : Engine σ) (s : Section) (st : Stage σ) : Stage σ :=
  Stage.bindSection E s.id s.visits (Stage.resetScratch E st)

/-- The section with one visit more. -/
def counted (s : Section) : Section := { s with visits := nextVisit s.visits }

/-- Enters the section, whose visit is counted already. -/
def enter (E : Engine σ) (s : Section) (st : Stage σ) : Stage σ :=
  let st := rebind E s st
  match s.run with
  | some code => (Stage.run E code st).2
  | none => st

/-- Hides or shows one option. -/
def setHidden (optionId : String) (hidden : Bool) (s : Section) : Section :=
  { s with choices := s.choices.modify optionId (fun choice => { choice with hidden }) }

/-- The ids of the hidden options, in order. -/
def hiddenIds (s : Section) : List String :=
  Fields.names (s.choices.filter (fun entry => entry.2.hidden))

/-- The progress that a save keeps, with the private variables. -/
def progress (vars : Variables) (s : Section) : Progress :=
  { visits := s.visits, hiddenOptions := s.hiddenIds, vars }

/-- The section with saved progress. -/
def withProgress (progress : Progress) (s : Section) : Section :=
  { s with
    visits := progress.visits
    choices := s.choices.map (fun (optionId, choice) =>
      (optionId, { choice with hidden := progress.hiddenOptions.contains optionId })) }

end Section

end Gamebook
