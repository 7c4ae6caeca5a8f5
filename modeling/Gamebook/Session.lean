import Gamebook.Document.Parse
import Gamebook.Story

/-!
# Sessions

A player's place in a story, with the source that the story can be loaded from again. Choosing an
option follows it: into a section, back to the beginning, or nowhere if its target does not exist.

* `Session.create`, `Session.resume` : from the beginning, or from a save.
* `Session.view` : what a player sees.
* `Session.choose`, `Session.goTo`, `Session.restart`, `Session.trigger` : play.
* `Session.save` : what a save keeps.
-/

namespace Gamebook

/-- What a story is loaded from: the text of a gamebook and fresh engines. If the dice have a seed,
the engine is the same each time; if not, each one has dice from what the clock says by then. -/
structure Source (σ : Type) where
  text : String
  engines : Engines σ

/-- The engine that the story is loaded with next. -/
def Source.engine {σ : Type} (source : Source σ) : σ := source.engines.next

/-- The source that the story starts over from, once it has been loaded. -/
def Source.later {σ : Type} (source : Source σ) : Source σ :=
  { source with engines := source.engines.later }

/-- Reads the gamebook and loads it. -/
def Source.load {σ : Type} (E : Engine σ) (source : Source σ) : Except Fault (Story σ) :=
  match Document.ofText source.text with
  | .error fault => .error fault
  | .ok document => (Story.load E document source.engine).1

/-- A player's place in a story. -/
structure Session (σ : Type) where
  source : Source σ
  story : Story σ
  /-- The id of the section the player is in. -/
  current : String

/-- What a player sees of a section. -/
structure SectionView where
  id : String
  title : String
  text : String
  visits : UInt32
  offers : List Offer

/-- Where following an option has led. -/
inductive Navigation where
  /-- The player is in this section now. -/
  | entered (sectionId : String)
  /-- The story has started over, in this section. -/
  | restarted (sectionId : String)
  /-- The target does not exist, and the player has not moved. -/
  | blocked (fault : Fault)

/-- What choosing an option has led to. -/
structure Followed where
  navigation : Navigation
  notice : Option String
  redirected : Bool

namespace Session

variable {σ : Type}

/-- A session at the start of a story, or at another of its sections. -/
def create (E : Engine σ) (source : Source σ) (start : Option String) :
    Except Fault (Session σ) := do
  let story ← source.load E
  let start := start.getD story.startId
  match story.visit E start with
  | (.ok (), story) => .ok { source, story, current := start }
  | (.error fault, _) => .error fault

/-- Puts back what a save keeps of the sections: their progress, with the saved section bound but
not entered. A save without progress enters its section instead. -/
def restoreSections (E : Engine σ) (save : Save) (story : Story σ) : Except Fault Unit × Story σ :=
  if save.sections.isEmpty then story.visit E save.sectionId
  else
    match Story.restore E save.sections story with
    | (.error fault, story) => (.error fault, story)
    | (.ok (), story) => story.rebind E save.sectionId

/-- The dice of a save, if it has them. -/
def restoreDice (E : Engine σ) (save : Save) (story : Story σ) : Story σ :=
  match save.dice with
  | some dice => story.setDice E dice
  | none => story

/-- A session that goes on from a save: first its sections, then its variables, then its dice. -/
def resume (E : Engine σ) (source : Source σ) (save : Save) : Except Fault (Session σ) := do
  if save.schema ≠ Save.currentSchema then
    .error (.saveFormat save.schema Save.currentSchema)
  else
    let story ← source.load E
    match restoreSections E save story with
    | (.error fault, _) => .error fault
    | (.ok (), story) =>
      match story.putBack E save.globals with
      | (.error fault, _) => .error fault
      | (.ok (), story) =>
        .ok { source, story := restoreDice E save story, current := save.sectionId }

/-- An operation of the story. -/
def onStory {α : Type} (operation : Story σ → α × Story σ) (session : Session σ) :
    α × Session σ :=
  let result := operation session.story
  (result.1, { session with story := result.2 })

/-- What the player sees; the text is rendered before the options. -/
def view (E : Engine σ) (session : Session σ) : Except Fault SectionView × Session σ :=
  match session.onStory (Story.text E session.current) with
  | (.error fault, session) => (.error fault, session)
  | (.ok text, session) =>
    match session.onStory (Story.offers E session.current) with
    | (.error fault, session) => (.error fault, session)
    | (.ok offers, session) =>
      match session.story.section? session.current with
      | none => (.error (.sectionNotFound session.current), session)
      | some s =>
        (.ok { id := s.id, title := s.shownTitle, text, visits := s.visits, offers }, session)

/-- Enters a section; if it does not exist, the player stays. -/
def goTo (E : Engine σ) (sectionId : String) (session : Session σ) :
    Except Fault Unit × Session σ :=
  match session.story.visit E sectionId with
  | (.ok (), story) => (.ok (), { session with story, current := sectionId })
  | (.error fault, story) => (.error fault, { session with story })

/-- Starts over from the source, with the engine of another time; if that fails, nothing changes. -/
def restart (E : Engine σ) (session : Session σ) : Except Fault Unit × Session σ :=
  match create E session.source.later none with
  | .ok fresh => (.ok (), fresh)
  | .error fault => (.error fault, session)

/-- Follows a target. -/
def follow (E : Engine σ) (target : Target) (session : Session σ) :
    Except Fault Navigation × Session σ :=
  match target with
  | .restart =>
    match session.restart E with
    | (.ok (), session) => (.ok (.restarted session.current), session)
    | (.error fault, session) => (.error fault, session)
  | .goTo sectionId =>
    match session.goTo E sectionId with
    | (.ok (), session) => (.ok (.entered session.current), session)
    | (.error fault, session) => (.ok (.blocked fault), session)

/-- The option is there and not on offer. -/
def withheld (offers : List Offer) (optionId : String) (session : Session σ) : Bool :=
  !offers.any (fun offer => offer.id == optionId)
    && ((session.story.section? session.current).map (·.choices.has optionId)).getD false

/-- Chooses an option that can be chosen now, and follows it. -/
def choose (E : Engine σ) (optionId : String) (session : Session σ) :
    Except Fault Followed × Session σ :=
  match session.onStory (Story.offers E session.current) with
  | (.error fault, session) => (.error fault, session)
  | (.ok offers, session) =>
    if session.withheld offers optionId then
      (.error (.optionUnavailable optionId session.current), session)
    else
      match session.onStory (Story.executeOption E session.current optionId) with
      | (.error fault, session) => (.error fault, session)
      | (.ok outcome, session) =>
        match session.follow E outcome.target with
        | (.error fault, session) => (.error fault, session)
        | (.ok navigation, session) =>
          (.ok { navigation, notice := outcome.notice, redirected := outcome.redirected },
            session)

/-- Runs an event handler. -/
def trigger (E : Engine σ) (eventId : String) (args : List Value) (session : Session σ) :
    String × Session σ :=
  session.onStory (Story.trigger E eventId args)

/-- What a save keeps. -/
def save (E : Engine σ) (session : Session σ) : Save :=
  { schema := Save.currentSchema
    storyTitle := session.story.title
    sectionId := session.current
    globals := session.story.snapshot E
    sections := session.story.progress E
    dice := session.story.dice? E }

end Session

end Gamebook
