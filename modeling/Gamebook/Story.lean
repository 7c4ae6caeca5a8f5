import Gamebook.Section

/-!
# Stories

A gamebook in play: its sections with their progress, and the stage that holds everything else.
Loading registers a document in an engine, in a fixed order, and stops at the first failure. After
that, scripts that fail are contained: an operation fails only for an id that names nothing.

* `Story.load` : a story from a document and an engine.
* `Story.visit`, `Story.text`, `Story.offers`, `Story.executeOption`, `Story.trigger` : play.
* `Story.snapshot`, `Story.putBack` : the declared variables, for saves.
* `Story.progress`, `Story.restore`, `Story.rebind` : the progress in sections, for saves.
-/

namespace Gamebook

/-- A gamebook in play. -/
structure Story (σ : Type) where
  title : String
  author : Option String
  version : Option String
  /-- The declared variables. -/
  roster : List String
  /-- The events with their parameters. -/
  events : Fields (List String)
  hooks : List String
  sections : Fields Section
  stage : Stage σ

namespace Story

variable {σ : Type}

/-! ## Loading -/

/-- Loading: engine operations until the first that fails. -/
abbrev Loading (σ : Type) := ExceptT Fault (StateM σ)

/-- An engine operation of a step of loading. -/
def during {α : Type} (phase : LoadPhase) (operation : σ → Except Fault α × σ) :
    Loading σ Unit := fun engine =>
  match operation engine with
  | (.ok _, engine) => (.ok (), engine)
  | (.error fault, engine) => (.error (.load phase fault), engine)

/-- An operation of the stage as an operation of its engine. -/
def onEngine {α : Type} (operation : Stage σ → α × Stage σ) (engine : σ) : α × σ :=
  let result := operation { engine }
  (result.1, result.2.engine)

/-- Registers a document: its variables, the helpers and the reserved names, its opening code, its
events, its hooks, and the private variables of its sections. -/
def register (E : Engine σ) (document : Document) : Loading σ Unit := do
  document.vars.forM fun (name, value) => during (.global name) (E.write name value)
  during .helpers E.addHelpers
  during .reserved (onEngine (Stage.prime E))
  match document.init.bind Text.nonBlank with
  | some code => during .opening (E.execute code)
  | none => pure ()
  document.events.forM fun (id, event) =>
    during (.event id) (E.define (eventFunction id) event.params event.run)
  document.hooks.forM fun (id, hook) => during (.hook id) (E.define (hookFunction id) [] hook.run)
  document.sections.forM fun (id, spec) =>
    during (.privates id) (onEngine (Stage.openNamespace E id spec.vars))

/-- The story of a document whose registration left the engine in some state. -/
def ofDocument (document : Document) (engine : σ) : Story σ :=
  { title := document.title
    author := document.author
    version := document.version
    roster := document.vars.names
    events := document.events.map (fun (id, event) => (id, event.params))
    hooks := document.hooks.names
    sections := document.sections.map (fun (id, spec) => (id, Section.ofSpec id spec))
    stage := { engine } }

/-- Loads a document into an engine; gives the engine's state also if that fails. -/
def load (E : Engine σ) (document : Document) (engine : σ) : Except Fault (Story σ) × σ :=
  if E.isReady engine then
    match register E document engine with
    | (.ok (), engine) => (.ok (ofDocument document engine), engine)
    | (.error fault, engine) => (.error fault, engine)
  else (.error .engineNotReady, engine)

/-! ## Sections -/

/-- The section with this id. -/
def section? (id : String) (story : Story σ) : Option Section := story.sections.find? id

/-- There is a section with this id. -/
def hasSection (id : String) (story : Story σ) : Bool := story.sections.has id

/-- Where a player begins: the section `start`, or the first one written. -/
def startId (story : Story σ) : String :=
  if story.hasSection "start" then "start" else story.sections.names.headD "start"

/-- The options whose target names no section: the ids of section and option, and the target. -/
def danglingTargets (story : Story σ) : List (String × String × String) :=
  story.sections.flatMap fun (sectionId, s) =>
    s.choices.filterMap fun (optionId, choice) =>
      match choice.target with
      | .restart => none
      | .goTo target =>
        if story.hasSection target then none else some (sectionId, optionId, target)

/-- An operation that needs a section. -/
def onSection {α : Type} (id : String) (story : Story σ) (operation : Section → α × Story σ) :
    Except Fault α × Story σ :=
  match story.section? id with
  | none => (.error (.sectionNotFound id), story)
  | some s =>
    let result := operation s
    (.ok result.1, result.2)

/-- An operation of the stage. -/
def onStage {α : Type} (operation : Stage σ → α × Stage σ) (story : Story σ) : α × Story σ :=
  let result := operation story.stage
  (result.1, { story with stage := result.2 })

/-! ## Play -/

/-- Enters a section. -/
def visit (E : Engine σ) (id : String) (story : Story σ) : Except Fault Unit × Story σ :=
  story.onSection id fun s =>
    ((), { story with
      sections := story.sections.modify id Section.counted
      stage := s.counted.enter E story.stage })

/-- Makes a section the bound one without counting a visit. -/
def rebind (E : Engine σ) (id : String) (story : Story σ) : Except Fault Unit × Story σ :=
  story.onSection id fun s => ((), { story with stage := s.rebind E story.stage })

/-- The text of a section. -/
def text (E : Engine σ) (id : String) (story : Story σ) : Except Fault String × Story σ :=
  story.onSection id fun s => story.onStage (Stage.render E s.text)

/-- Options as they are shown, one after the other. -/
def offersOf (E : Engine σ) : List Choice → Stage σ → List Offer × Stage σ
  | [], st => ([], st)
  | choice :: rest, st =>
    let shown := choice.offer E st
    let others := offersOf E rest shown.2
    (shown.1 :: others.1, others.2)

/-- The options of a section that can be chosen now, as they are shown. All guards are evaluated
before any text is rendered. -/
def offers (E : Engine σ) (id : String) (story : Story σ) : Except Fault (List Offer) × Story σ :=
  story.onSection id fun s => story.onStage fun st =>
    let available := s.available E st
    offersOf E available.1 available.2

/-- Executes an option of a section, available or not; one that can be executed once only is hidden
from then on. -/
def executeOption (E : Engine σ) (sectionId optionId : String) (story : Story σ) :
    Except Fault Outcome × Story σ :=
  match story.section? sectionId with
  | none => (.error (.sectionNotFound sectionId), story)
  | some s =>
    match s.choices.find? optionId with
    | none => (.error (.optionNotFound optionId sectionId), story)
    | some choice =>
      let result := choice.execute E story.stage
      let spent (s : Section) : Section :=
        { s with choices := s.choices.modify optionId Choice.spent }
      (.ok result.1,
        { story with
          stage := result.2
          sections := story.sections.modify sectionId spent })

/-- Hides or shows an option; an id that names nothing is ignored. -/
def setHidden (sectionId optionId : String) (hidden : Bool) (story : Story σ) : Story σ :=
  { story with sections := story.sections.modify sectionId (Section.setHidden optionId hidden) }

/-- Runs an event handler; gives its result as text, or a text that tells what went wrong. -/
def trigger (E : Engine σ) (eventId : String) (args : List Value) (story : Story σ) :
    String × Story σ :=
  if story.events.has eventId then
    story.onStage fun st =>
      let result := Stage.call E (eventFunction eventId) args st
      match result.1 with
      | .ok value => (value.toText, result.2)
      | .error fault => (s!"Event {eventId} failed: {fault.message}", result.2)
  else (s!"Unable to trigger event: {eventId}", story)

/-- A template with its placeholders evaluated. -/
def replaceVars (E : Engine σ) (template : String) (story : Story σ) : String × Story σ :=
  story.onStage (Stage.render E template)

/-! ## Saving and restoring -/

/-- The declared variables with their values; one that cannot be read counts as nothing. -/
def snapshot (E : Engine σ) (story : Story σ) : Variables :=
  Fields.sorted (story.roster.map (fun name => (name, Stage.valueOf E name story.stage)))

/-- Writes the variables of a list that a state has, until one cannot be written. -/
def putBackOf (E : Engine σ) (state : Variables) :
    List String → Stage σ → Except Fault Unit × Stage σ
  | [], st => (.ok (), st)
  | name :: rest, st =>
    match state.find? name with
    | none => putBackOf E state rest st
    | some value =>
      match Stage.write E name value st with
      | (.ok (), st) => putBackOf E state rest st
      | (.error fault, st) => (.error fault, st)

/-- Writes the declared variables that a state has. -/
def putBack (E : Engine σ) (state : Variables) (story : Story σ) : Except Fault Unit × Story σ :=
  story.onStage (putBackOf E state story.roster)

/-- The progress in every section that was entered, sorted by id. -/
def progress (E : Engine σ) (story : Story σ) : Fields Progress :=
  Fields.sorted <| (story.sections.filter (fun entry => entry.2.visits != 0)).map
    fun (id, s) => (id, s.progress (Stage.privates E id story.stage))

/-- Puts back the progress in sections, until private variables cannot be written. Sections that
the story does not have are passed over. -/
def restore (E : Engine σ) : Fields Progress → Story σ → Except Fault Unit × Story σ
  | [], story => (.ok (), story)
  | (id, progress) :: rest, story =>
    if story.hasSection id then
      let story := { story with
        sections := story.sections.modify id (Section.withProgress progress) }
      if progress.vars.isEmpty then restore E rest story
      else
        match story.onStage (Stage.write E (sectionNamespace id) (.record progress.vars)) with
        | (.ok (), story) => restore E rest story
        | (.error fault, story) => (.error fault, story)
    else restore E rest story

/-- The state of the dice, if the engine has any. -/
def dice? (E : Engine σ) (story : Story σ) : Option UInt32 := E.dice? story.stage.engine

/-- Puts the dice into a state. -/
def setDice (E : Engine σ) (dice : UInt32) (story : Story σ) : Story σ :=
  { story with stage := { story.stage with engine := E.setDice dice story.stage.engine } }

end Story

end Gamebook
