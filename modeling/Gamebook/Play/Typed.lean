import Gamebook.Boundary
import Gamebook.Json.Reader

/-!
# What players type

Arguments of events, options picked by number or by id, and the commands of line mode.
-/

namespace Gamebook

/-- The value of a typed argument: what it says as JSON, or else its text. -/
def Value.ofTyped (raw : String) : Value :=
  match Json.decodeValue raw with
  | .ok value => value
  | .error _ => .text raw

/-- A typed number: decimal digits, with or without a plus sign, that fit 64 bits. -/
def typedNumber? (raw : String) : Option Nat :=
  let digits := match raw.toList with
    | '+' :: rest => rest
    | all => all
  let number := digits.foldl (fun n c => 10 * n + (c.toNat - 48)) 0
  if digits.isEmpty || !digits.all Char.isDigit || 0x10000000000000000 ≤ number then none
  else some number

/-- The id of the option that was picked: by its number, counted from one, or by its id. What reads
as a number is one. -/
def Boundary.pick? (raw : String) (boundary : Boundary) : Option String :=
  match typedNumber? raw with
  | some number =>
    if number = 0 then none else (boundary.offers[number - 1]?).map (·.id)
  | none => (boundary.offers.find? (fun offer => offer.id == raw)).map (·.id)

/-- A command of line mode. -/
inductive LineCommand where
  | help
  | save
  | load
  | restart
  /-- Shows the declared variables. -/
  | state
  /-- Triggers an event; the event may have been left out. -/
  | trigger (event : Option String) (args : List Value)
  | quit
  | unknown (word : String)

namespace LineCommand

/-- The command of a line; none if the line does not begin with a colon. -/
def ofLine? (line : String) : Option LineCommand :=
  match Text.words line with
  | [] => none
  | word :: rest =>
    if Text.startsWith ":" word then
      some <|
        if word = ":help" then help
        else if word = ":save" then save
        else if word = ":load" then load
        else if word = ":restart" then restart
        else if word = ":state" then state
        else if word = ":trigger" then trigger rest.head? (rest.tail.map Value.ofTyped)
        else if word = ":quit" then quit
        else unknown word
    else none

/-- The summary of the commands. -/
def summary : String :=
  "commands: :help :save :load :restart :state :trigger <event> [args...] :quit"

end LineCommand

end Gamebook
