import Gamebook.Fault
import Gamebook.Text.Blank

/-!
# Log levels

How much is reported while a program runs.
-/

namespace Gamebook

/-- How much is reported while a program runs. -/
inductive LogLevel where
  | off
  | error
  | warn
  | info
  | debug
  | trace
  deriving Repr, DecidableEq

namespace LogLevel

/-- All levels, from the most silent on. -/
def all : List LogLevel := [off, error, warn, info, debug, trace]

/-- The name of a level. -/
def name : LogLevel → String
  | off => "OFF"
  | error => "ERROR"
  | warn => "WARN"
  | info => "INFO"
  | debug => "DEBUG"
  | trace => "TRACE"

/-- Letters of ASCII in upper case. -/
def capitals (text : String) : String := String.ofList (text.toList.map Char.toUpper)

/-- The level that a text names, in any case and with blanks around it. -/
def ofText (raw : String) : Except Fault LogLevel :=
  match all.find? (fun level => level.name == capitals (Text.trim raw)) with
  | some level => .ok level
  | none => .error (.logLevelUnknown raw)

end LogLevel

end Gamebook
