/-!
# Usage of a command line

A command takes options, each with a value, and either has commands of its own, of which one must be
given, or none. What a command looks like to its user is the help text.
-/

namespace Gamebook

/-- What the values of an option are. -/
inductive ValueForm where
  /-- Any text. -/
  | text
  /-- A number below 2^32. -/
  | word
  deriving Repr, DecidableEq

/-- An option of a command: two hyphens and a name, followed by a value. -/
structure Parameter where
  name : String
  form : ValueForm := .text
  isRequired : Bool := false
  /-- The option may be given several times. -/
  isRepeated : Bool := false
  /-- What the help text calls the values, if not by the name of the option. -/
  valueName : Option String := none
  about : String := ""

/-- A command with its options, the groups of options that exclude each other, and its own
commands. -/
inductive Usage where
  | mk (name about : String) (parameters : List Parameter) (exclusions : List (String × String))
    (commands : List Usage)

namespace Usage

/-- What the user types to give the command. -/
def name : Usage → String
  | mk name _ _ _ _ => name

/-- What the command is for. -/
def about : Usage → String
  | mk _ about _ _ _ => about

/-- The options of the command. -/
def parameters : Usage → List Parameter
  | mk _ _ parameters _ _ => parameters

/-- Pairs of options of which only one may be given. -/
def exclusions : Usage → List (String × String)
  | mk _ _ _ exclusions _ => exclusions

/-- The commands of the command. -/
def commands : Usage → List Usage
  | mk _ _ _ _ commands => commands

/-- The option of a name. -/
def parameter? (usage : Usage) (name : String) : Option Parameter :=
  usage.parameters.find? (fun parameter => parameter.name == name)

/-- The command of a name. -/
def command? (usage : Usage) (name : String) : Option Usage :=
  usage.commands.find? (fun command => command.name == name)

/-- The word that asks for the help text of a command. -/
def helpWord : String := "help"

/-- What the word for help does. -/
def helpAbout : String := "Print this message or the help of the given subcommand(s)"

/-! ## The help text -/

/-- What stands for the value of an option: a name in capitals, with low lines. -/
def placeholder (parameter : Parameter) : String :=
  "<" ++ String.ofList ((parameter.valueName.getD parameter.name).toList.map
    (fun c => if c = '-' then '_' else c.toUpper)) ++ ">"

/-- An option as it is typed. -/
def shape (parameter : Parameter) : String :=
  "--" ++ parameter.name ++ " " ++ placeholder parameter

/-- Rows of two columns, indented; the second column begins two places after the first ends. -/
private def table (indent : String) (rows : List (String × String)) : List String :=
  let longest := (rows.map (fun row => row.1.length)).foldl max 0
  rows.map (fun row => indent ++ row.1.pushn ' ' (longest + 2 - row.1.length) ++ row.2)

/-- A heading with the rows below it; nothing if there are none. -/
private def part (heading : String) (rows : List String) : List String :=
  if rows.isEmpty then [] else "" :: (heading ++ ":") :: rows

/-- The text without blanks at its end. -/
private def trimmed (text : String) : String :=
  String.ofList ((text.toList.reverse.dropWhile (fun c => c = ' ' || c = '\n')).reverse)

/-- The help text of a command; `path` holds the commands that lead to it, itself included. -/
def help (path : List String) (usage : Usage) : String :=
  let required := usage.parameters.filter (·.isRequired)
  let command := if usage.commands.isEmpty then [] else ["<COMMAND>"]
  let summary := " ".intercalate (path ++ ["[OPTIONS]"] ++ required.map shape ++ command)
  let commands := if usage.commands.isEmpty then []
    else usage.commands.map (fun c => (c.name, c.about)) ++ [(helpWord, helpAbout)]
  let options := usage.parameters.map (fun p => ("    " ++ shape p, p.about))
    ++ [("-h, --help", "Print help")]
  let rows := (if usage.about = "" then [] else [usage.about, ""])
    ++ ["Usage: " ++ summary]
    ++ part "Commands" (table "  " commands)
    ++ part "Options" (table "  " options)
  trimmed ("\n".intercalate rows) ++ "\n"

/-- The help text for the word that asks for help; `path` holds the commands that lead to it. -/
def helpOfHelp (path : List String) : String :=
  "\n".intercalate
    [helpAbout, "", "Usage: " ++ " ".intercalate (path ++ ["[COMMAND]..."]), "", "Arguments:",
      "  [COMMAND]...  Print help for the subcommand(s)", ""]

end Usage

end Gamebook
