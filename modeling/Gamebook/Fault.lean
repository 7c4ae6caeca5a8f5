import Gamebook.Text.Blank

/-!
# Faults

What can go wrong, as causes. Each cause has a code for programs, a message for people and, where
it comes from a place in a text, that place. The code's first word decides the coarse kind.

`fault.code`, `fault.message`, `fault.place?` and `FaultKind.ofCode` are the whole wording.
-/

namespace Gamebook

/-- A place in a text, counted from one. -/
structure Place where
  line : Nat
  column : Nat
  deriving Repr, DecidableEq

/-- Coarse classes of faults. -/
inductive FaultKind where
  /-- The gamebook could not be loaded. -/
  | parse
  /-- A script could not be compiled or run. -/
  | script
  /-- A section or option id names nothing. -/
  | navigation
  /-- Everything else: files, arguments, saves. -/
  | host
  deriving Repr, DecidableEq

/-- The class that a code belongs to, by its first word. -/
def FaultKind.ofCode (code : String) : FaultKind :=
  if Text.startsWith "PARSE_" code then .parse
  else if Text.startsWith "SCRIPT_" code then .script
  else if Text.startsWith "NAV_" code then .navigation
  else .host

/-- The steps of loading a gamebook into an engine. -/
inductive LoadPhase where
  | global (name : String)
  | helpers
  | reserved
  | opening
  | event (id : String)
  | hook (id : String)
  | privates (id : String)
  deriving Repr, DecidableEq

/-- The code of a failure in this step. -/
def LoadPhase.code : LoadPhase → String
  | global _ => "PARSE_VARS"
  | helpers => "PARSE_BUILTINS"
  | reserved => "PARSE_BUILTINS"
  | opening => "PARSE_INIT"
  | event _ => "PARSE_EVENT"
  | hook _ => "PARSE_HOOK"
  | privates _ => "PARSE_SECTION"

/-- What a failure message calls this step. -/
def LoadPhase.title : LoadPhase → String
  | global name => s!"Variable {name}"
  | helpers => "Helper routines"
  | reserved => "Reserved bindings"
  | opening => "Init code"
  | event id => s!"Event {id}"
  | hook id => s!"Hook {id}"
  | privates id => s!"Section {id}"

/-- A cause of failure. -/
inductive Fault where
  /-- The document's text is malformed. -/
  | markup (reason : String) (place : Option Place)
  /-- The document holds nothing. -/
  | emptyDocument
  /-- The document does not have the shape of a gamebook. -/
  | shape (reason : String)
  | noSections
  /-- A name that scripts must be able to use is no identifier. -/
  | badName (what name : String)
  | emptySectionId
  | emptyOptionId (sectionId : String)
  | engineNotReady
  /-- A fault raised by a script engine. -/
  | engine (code message : String) (place : Option Place)
  /-- Loading failed in a step, for a cause. -/
  | load (phase : LoadPhase) (cause : Fault)
  | sectionNotFound (sectionId : String)
  | optionNotFound (optionId sectionId : String)
  | optionUnavailable (optionId sectionId : String)
  /-- The save was written in another format. -/
  | saveFormat (found expected : String)
  | storyFileMissing (path : String)
  | storiesFolderMissing (path : String)
  | storiesNotFolder (path : String)
  | storyNameUnknown (name folder : String)
  | storyRefUnsupported (ref : String)
  | storyUnreadable (reason : String)
  | stateFileMissing (path : String)
  | stateUnreadable (reason : String)
  | stateInvalid (reason : String)
  | stateFormat (found : String)
  | stateUnwritable (reason : String)
  /-- The state file belongs to another story. -/
  | stateOfOtherStory (expected found : String)
  | logLevelUnknown (raw : String)
  /-- A failure to load, with the file it was loaded from. -/
  | inFile (name path : String) (cause : Fault)
  deriving Repr, DecidableEq

namespace Fault

/-- The code that programs match on. -/
def code : Fault → String
  | markup .. => "PARSE_YAML"
  | emptyDocument => "PARSE_EMPTY"
  | shape _ => "PARSE_DOCUMENT"
  | noSections => "PARSE_NO_SECTIONS"
  | badName .. => "PARSE_IDENTIFIER"
  | emptySectionId => "PARSE_SECTION_ID"
  | emptyOptionId _ => "PARSE_OPTION_ID"
  | engineNotReady => "PARSE_ENGINE_UNAVAILABLE"
  | engine code _ _ => code
  | load phase _ => phase.code
  | sectionNotFound _ => "NAV_SECTION_NOT_FOUND"
  | optionNotFound .. => "NAV_OPTION_NOT_FOUND"
  | optionUnavailable .. => "NAV_OPTION_UNAVAILABLE"
  | saveFormat .. => "API_SAVE_SCHEMA_UNSUPPORTED"
  | storyFileMissing _ => "CLI_SOURCE_NOT_FOUND"
  | storiesFolderMissing _ => "CLI_SOURCE_NOT_FOUND"
  | storiesNotFolder _ => "CLI_SOURCE_NOT_DIR"
  | storyNameUnknown .. => "CLI_STORY_NOT_FOUND"
  | storyRefUnsupported _ => "CLI_SOURCE_REF_INVALID"
  | storyUnreadable _ => "CLI_SOURCE_READ"
  | stateFileMissing _ => "CLI_STATE_NOT_FOUND"
  | stateUnreadable _ => "CLI_STATE_READ"
  | stateInvalid _ => "CLI_STATE_INVALID"
  | stateFormat _ => "CLI_STATE_SCHEMA"
  | stateUnwritable _ => "CLI_STATE_WRITE"
  | stateOfOtherStory .. => "TUI_STATE_STORY_MISMATCH"
  | logLevelUnknown _ => "CLI_LOG_LEVEL"
  | inFile _ _ cause => cause.code

/-- The message for people. -/
def message : Fault → String
  | markup reason _ => reason
  | emptyDocument => "Story document is empty."
  | shape reason => reason
  | noSections => "Story must declare at least one section."
  | badName what name => s!"Invalid {what} name \"{name}\"."
  | emptySectionId => "Section id must not be empty."
  | emptyOptionId sectionId => s!"Section \"{sectionId}\" has an option with an empty id."
  | engineNotReady => "Script engine is not ready."
  | engine _ message _ => message
  | load phase cause => phase.title ++ " failed: " ++ cause.code ++ ": " ++ cause.message
  | sectionNotFound sectionId => s!"Section \"{sectionId}\" not found."
  | optionNotFound optionId sectionId =>
    s!"Option \"{optionId}\" not found in section \"{sectionId}\"."
  | optionUnavailable optionId sectionId =>
    s!"Option \"{optionId}\" is not available in section \"{sectionId}\"."
  | saveFormat found expected =>
    s!"Save schema \"{found}\" is not supported (expected \"{expected}\")."
  | storyFileMissing path => s!"story file does not exist: {path}"
  | storiesFolderMissing path => s!"stories-dir does not exist: {path}"
  | storiesNotFolder path => s!"stories-dir is not a directory: {path}"
  | storyNameUnknown name folder => s!"No story named \"{name}\" (.yaml/.yml) under {folder}"
  | storyRefUnsupported ref => s!"Unsupported story ref: {ref}"
  | storyUnreadable reason => reason
  | stateFileMissing path => s!"State file does not exist: {path}"
  | stateUnreadable reason => reason
  | stateInvalid reason => reason
  | stateFormat found => s!"Unsupported player state schema: {found}"
  | stateUnwritable reason => reason
  | stateOfOtherStory expected found =>
    s!"State story mismatch. expected={expected} actual={found}"
  | logLevelUnknown raw =>
    s!"Unknown log level \"{raw}\" (expected off, error, warn, info, debug or trace)"
  | inFile name path cause => name ++ " (" ++ path ++ "): " ++ cause.message

/-- The place in a text that the fault points at. -/
def place? : Fault → Option Place
  | markup _ place => place
  | engine _ _ place => place
  | load _ cause => cause.place?
  | inFile _ _ cause => cause.place?
  | _ => none

/-- The coarse class of the fault. -/
def kind (fault : Fault) : FaultKind := FaultKind.ofCode fault.code

/-- Code and message in one line. -/
def line (fault : Fault) : String := fault.code ++ ": " ++ fault.message

end Fault

end Gamebook
