import Gamebook.CommandLine.Reading
import Gamebook.Shelf

/-!
# The commands of the player

Playing line by line or on the full screen, single steps for programs, the list of stories; and how
each of them is given on a command line.
-/

namespace Gamebook

/-- Where a story is to be found. -/
inductive StoryPlace where
  /-- A file. -/
  | file (path : String)
  /-- A name in a folder. -/
  | named (folder name : String)

/-- The story file at a place. -/
def StoryPlace.find {m : Type → Type} [Monad m] (files : Files m) :
    StoryPlace → Attempt m StoryFile
  | file path => Shelf.ofPath files path
  | named folder name => Shelf.ofName files folder name

/-- A command of the player. -/
inductive Command where
  /-- A first step for programs. -/
  | start (place : StoryPlace) (sectionId : Option String) (seed : Option UInt32)
    (stateOut : String)
  /-- A step for programs that chooses an option. -/
  | choose (stateIn optionId stateOut : String)
  /-- A step for programs that triggers an event; its arguments as typed. -/
  | trigger (stateIn eventId : String) (args : List String) (stateOut : String)
  /-- Playing, line by line or on the full screen. -/
  | play (fullScreen : Bool) (place : StoryPlace) (seed : Option UInt32) (stateFile : String)
  /-- The list of the stories in a folder. -/
  | list (folder : String)

namespace Command

/-! ## Usage -/

private def logLevel : Parameter :=
  { name := "log-level"
    about := "Diagnostics threshold for stderr: off, error, warn, info, debug, trace "
      ++ "[default: warn]" }

private def text (name : String) : Parameter := { name }

private def required (name : String) : Parameter := { name, isRequired := true }

private def seed : Parameter := { name := "seed", form := .word }

private def place : List Parameter := [text "story", text "stories-dir", text "name"]

/-- A story is given by its file, or by folder and name. -/
private def placeExclusions : List (String × String) :=
  [("story", "stories-dir"), ("story", "name")]

private def playing (name : String) : Usage :=
  .mk name "" (place ++ [seed, text "state-file", logLevel]) placeExclusions []

private def startUsage : Usage :=
  .mk "start" "" (place ++ [text "section", seed, required "state-out", logLevel])
    placeExclusions []

private def chooseUsage : Usage :=
  .mk "choose" "" [required "state-in", required "option", required "state-out", logLevel] [] []

private def triggerUsage : Usage :=
  .mk "trigger" ""
    [required "state-in", required "event",
      { name := "arg", isRepeated := true, valueName := some "args"
        about := "Event argument, parsed as JSON when possible and kept as text otherwise" },
      required "state-out", logLevel] [] []

private def agentUsage : Usage :=
  .mk "agent" "" [logLevel] [] [startUsage, chooseUsage, triggerUsage]

private def listUsage : Usage :=
  .mk "list" ""
    [{ name := "stories-dir", about := "[default: " ++ Shelf.defaultFolder ++ "]" }, logLevel] [] []

/-- What the command line of the player provides for. -/
def usage : Usage :=
  .mk "codex" "Codex interactive fiction player" [logLevel] []
    [agentUsage, playing "play", playing "tui", listUsage]

/-! ## Reading -/

/-- The state file of those who play without naming one. -/
def defaultStateFile : String := ".codex/save.json"

/-- The log level of those who do not name one. -/
def defaultLogLevel : String := "warn"

/-- The place of the story that is asked for. -/
def placeOf (reading : Reading) : StoryPlace :=
  match reading.value? "story" with
  | some path => .file path
  | none =>
    .named ((reading.value? "stories-dir").getD Shelf.defaultFolder)
      ((reading.value? "name").getD Shelf.defaultName)

/-- The seed that is asked for. -/
def seedOf (reading : Reading) : Option UInt32 := (reading.value? "seed").bind word?

/-- The text of an option that cannot be left out. -/
def textOf (reading : Reading) (name : String) : String := (reading.value? name).getD ""

private def playOf (fullScreen : Bool) (reading : Reading) : Command :=
  .play fullScreen (placeOf reading) (seedOf reading)
    ((reading.value? "state-file").getD defaultStateFile)

/-- The command that a reading asks for. -/
def ofReading? (reading : Reading) : Option Command :=
  let text := textOf reading
  match reading.path with
  | ["agent", "start"] =>
    some (.start (placeOf reading) (reading.value? "section") (seedOf reading) (text "state-out"))
  | ["agent", "choose"] => some (.choose (text "state-in") (text "option") (text "state-out"))
  | ["agent", "trigger"] =>
    some (.trigger (text "state-in") (text "event") (reading.values "arg") (text "state-out"))
  | ["play"] => some (playOf false reading)
  | ["tui"] => some (playOf true reading)
  | ["list"] => some (.list ((reading.value? "stories-dir").getD Shelf.defaultFolder))
  | _ => none

/-- What a command line asks for: a log level as typed, and a command. -/
structure Request where
  logLevel : String
  command : Command

/-- The request of the words after the name of the program. -/
def requestOf (words : List String) : Except Halt Request := do
  let reading ← usage.read words
  match ofReading? reading with
  | some command =>
    pure { logLevel := (reading.anywhere.lookup logLevel.name).getD defaultLogLevel, command }
  | none => throw .misuse

end Command

end Gamebook
