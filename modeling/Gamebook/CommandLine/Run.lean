import Gamebook.CommandLine.Command
import Gamebook.CommandLine.LogLevel
import Gamebook.Play.Agent
import Gamebook.Play.LineMode

/-!
# Carrying out a command line

The text that a command writes and the code it ends with: 0 if it succeeds, 1 if it fails, 2 if the
words are misused. Playing goes on with what the player types.
-/

namespace Gamebook

/-- The end of a command: what it has written, and its code. -/
structure Ending where
  output : String
  code : UInt8

/-- A command that has ended, or a game that goes on with what the player types. -/
inductive Opening (σ : Type) where
  | ended (ending : Ending)
  | playing (player : Player) (session : Session σ)

namespace CommandLine

variable {m : Type → Type} [Monad m] {σ : Type}

/-- The end of a command that fails after it has written something. -/
def failed (written : String) (fault : Fault) : Ending :=
  { output := written ++ LineMode.textOf fault.report, code := 1 }

/-- The end of a command that writes lines. -/
def ended (result : Except Fault (List String)) : Ending :=
  match result with
  | .ok lines => { output := LineMode.textOf lines, code := 0 }
  | .error fault => failed "" fault

/-- The list of the stories in a folder. -/
def listing (files : Files m) (folder : String) : Attempt m (List String) := do
  let folder ← Shelf.folder files folder
  let stories ← ExceptT.lift (Shelf.list files folder)
  pure ("RESULT:OK" :: stories.map (fun story => "STORY:" ++ story.1 ++ "|" ++ Json.quote story.2))

/-- Finds a story and begins it for a player. -/
def beginPlay (host : Host m σ) (place : StoryPlace) (seed : Option UInt32) (stateFile : String) :
    Attempt m (Player × Session σ) := do
  let story ← place.find host.files
  let session ← story.newSession host none seed
  pure ({ story, stateFile, seed }, session)

/-- Opens a command. -/
def openCommand (host : Host m σ) (command : Command) : m (Opening σ) :=
  let finished (attempt : Attempt m (List String)) : m (Opening σ) :=
    (fun result => .ended (ended result)) <$> attempt.run
  match command with
  | .start place sectionId seed stateOut =>
    finished do
      let story ← place.find host.files
      Agent.start host story sectionId seed stateOut
  | .choose stateIn optionId stateOut =>
    finished (Agent.goOn host stateIn stateOut (Agent.choosing host.engine optionId))
  | .trigger stateIn eventId args stateOut =>
    finished (Agent.goOn host stateIn stateOut
      (Agent.triggering host.engine eventId (args.map Value.ofTyped)))
  | .list folder => finished (listing host.files folder)
  | .play _ place seed stateFile =>
    (fun result =>
      match result with
      | .ok (player, session) => .playing player session
      | .error fault => .ended (failed "" fault)) <$> (beginPlay host place seed stateFile).run

/-- Opens what a command line asks for. -/
def opening (host : Host m σ) (words : List String) : m (Opening σ) :=
  match Command.requestOf words with
  | .error .misuse => pure (.ended { output := "", code := 2 })
  | .error (.help text) => pure (.ended { output := text, code := 0 })
  | .ok request =>
    match LogLevel.ofText request.logLevel with
    | .error fault => pure (.ended (failed "" fault))
    | .ok _ => openCommand host request.command

/-- The end of a game in which all lines have been answered. -/
def endOf (answer : LineMode.Answer σ) : Ending :=
  match answer.next with
  | .failed fault => failed answer.output fault
  | .ask | .over => { output := answer.output, code := 0 }

/-- Carries out a command line; `input` is what the player types. -/
def run (host : Host m σ) (words : List String) (input : String) : m Ending := do
  match ← opening host words with
  | .ended ending => pure ending
  | .playing player session => endOf <$> LineMode.play host player input session

end CommandLine

end Gamebook
