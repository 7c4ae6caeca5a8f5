import Gamebook.CommandLine.Usage
import Gamebook.Text.Blank

/-!
# Reading a command line

The words of a command line, one after the other: a command opens the level below it, an option
takes the value after the equals sign or else the next word. Words that the usage does not provide
for are misuse, and so are options that are missing, repeated or exclude each other. A request for
help ends the reading where it is met.
-/

namespace Gamebook

/-- Why a command line is not carried out. -/
inductive Halt where
  /-- The words are not what the usage provides for. -/
  | misuse
  /-- The user has asked for a help text. -/
  | help (text : String)

/-- What a command line says: the commands in order, and the options given to each. -/
structure Reading where
  /-- The commands, without the program itself. -/
  path : List String
  /-- The options given to the last command, in order. -/
  given : List (String × String)
  /-- The options given at any level, the last level first. -/
  anywhere : List (String × String)

namespace Reading

/-- The value of an option of the last command. -/
def value? (reading : Reading) (name : String) : Option String := reading.given.lookup name

/-- The values of an option of the last command in order. -/
def values (reading : Reading) (name : String) : List String :=
  (reading.given.filter (fun option => option.1 == name)).map (·.2)

end Reading

/-- A number below 2^32 in decimal digits, with or without a sign. -/
def word? (raw : String) : Option UInt32 :=
  let (negative, digits) := match raw.toList with
    | '-' :: rest => (true, rest)
    | '+' :: rest => (false, rest)
    | all => (false, all)
  let number := digits.foldl (fun n c => 10 * n + (c.toNat - 48)) 0
  if digits.isEmpty || !digits.all Char.isDigit || 0x100000000 ≤ number || (negative && number ≠ 0)
    then none
  else some number.toUInt32

namespace Usage

/-- Takes a value of an option to those given before. -/
def take (parameter : Parameter) (value : String) (given : List (String × String)) :
    Except Halt (List (String × String)) :=
  let fits := match parameter.form with
    | .text => true
    | .word => (word? value).isSome
  let again := given.any (fun option => option.1 == parameter.name)
  if !fits || (again && !parameter.isRepeated) then .error .misuse
  else .ok (given ++ [(parameter.name, value)])

/-- The options given to a command so far; the last one may wait for its turn to be taken. -/
structure Level where
  given : List (String × String) := []
  waiting : Option (Parameter × String) := none

/-- Takes the option that waits. -/
def Level.settle (level : Level) : Except Halt (List (String × String)) :=
  match level.waiting with
  | some (parameter, value) => take parameter value level.given
  | none => .ok level.given

/-- What is given to a command is complete and does not exclude itself. -/
def isComplete (usage : Usage) (given : List (String × String)) : Bool :=
  let has (name : String) : Bool := given.any (fun option => option.1 == name)
  usage.parameters.all (fun parameter => !parameter.isRequired || has parameter.name)
    && usage.exclusions.all (fun pair => !(has pair.1 && has pair.2))

/-- The end of the words for the last command. -/
def Level.close (usage : Usage) (level : Level) : Except Halt Reading := do
  let given ← level.settle
  if usage.commands.isEmpty && usage.isComplete given then
    pure { path := [], given, anywhere := given }
  else throw .misuse

/-- The help text that words after the word for help ask for. -/
def requestedHelp (path : List String) (usage : Usage) : List String → Halt
  | [] => .help (usage.help path)
  | word :: rest =>
    if word = helpWord && !usage.commands.isEmpty then
      if rest.isEmpty then .help (helpOfHelp (path ++ [word])) else .misuse
    else
      match usage.command? word with
      | some command => requestedHelp (path ++ [word]) command rest
      | none => .misuse

/-- The word can be the value of the option before it. -/
def isValue (word : String) : Bool := word = "-" || !Text.startsWith "-" word

/-- An option as it is typed: its name, and the value after the equals sign. -/
def nameAndValue (option : String) : String × Option String :=
  let (name, rest) := option.toList.span (· != '=')
  (String.ofList name, match rest with
    | [] => none
    | _ :: value => some (String.ofList value))

/-- The help text, once the option that waits is taken. -/
private def haltForHelp (path : List String) (usage : Usage) (level : Level) :
    Except Halt Reading :=
  match level.settle with
  | .ok _ => .error (.help (usage.help path))
  | .error halt => .error halt

/-- Reads words on a level; `path` holds the commands that lead to it. -/
def readLevel (path : List String) (usage : Usage) (level : Level) :
    List String → Except Halt Reading
  | [] => level.close usage
  | word :: rest =>
    match usage.command? word with
    | some command => do
      let below ← readLevel (path ++ [word]) command {} rest
      let given ← level.settle
      if usage.isComplete given then
        pure { below with path := word :: below.path, anywhere := below.anywhere ++ given }
      else throw .misuse
    | none =>
      if word = helpWord && !usage.commands.isEmpty then .error (requestedHelp path usage rest)
      else if word = "--" then if rest.isEmpty then level.close usage else .error .misuse
      else if Text.startsWith "-h" word then haltForHelp path usage level
      else
        match Text.afterStart? "--" word with
        | none => .error .misuse
        | some option =>
          let (name, attached) := nameAndValue option
          match usage.parameter? name, attached with
          | some parameter, some value =>
            match level.settle >>= take parameter value with
            | .ok given => readLevel path usage { given } rest
            | .error halt => .error halt
          | some parameter, none =>
            match level.settle, rest with
            | .error halt, _ => .error halt
            | .ok _, [] => .error .misuse
            | .ok given, value :: rest =>
              if isValue value then
                readLevel path usage { given, waiting := some (parameter, value) } rest
              else .error .misuse
          | none, attached =>
            if name = helpWord && attached.isNone then haltForHelp path usage level
            else .error .misuse

/-- Reads the words after the name of the program. -/
def read (usage : Usage) (words : List String) : Except Halt Reading :=
  readLevel [usage.name] usage {} words

end Usage

end Gamebook
