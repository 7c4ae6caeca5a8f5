import Gamebook.CommandLine.Run
import Gamebook.Files.Tree
import Gamebook.Script.Interpreter

/-!
# The program

The player on the files of the system and on a terminal: it carries out its command line, and a game
goes on line by line for as long as the player types.
-/

namespace Gamebook

namespace Program

/-- What the system says about a failure. -/
def complaint (error : IO.Error) : String :=
  match error with
  | .noFileOrDirectory .. => FileTrouble.missing.message
  | .alreadyExists .. => FileTrouble.taken.message
  | error => toString error

/-- An action whose failure is a result. -/
def attempt {α : Type} (action : IO α) : IO (Except String α) := do
  match ← action.toBaseIO with
  | .ok result => pure (.ok result)
  | .error error => pure (.error (complaint error))

/-- The text of a file. -/
def readText (path : String) : IO (Except String String) := do
  match ← attempt (IO.FS.readBinFile path) with
  | .error reason => pure (.error reason)
  | .ok bytes =>
    match String.fromUTF8? bytes with
    | some text => pure (.ok text)
    | none => pure (.error FileTrouble.noText.message)

/-- The path leads to something. -/
def isThere (path : String) : IO Bool := Except.isOk <$> attempt (IO.FS.realPath path)

/-- The path leads to a folder. -/
def isFolder (path : String) : IO Bool := isThere (path ++ "/.")

/-- The files in a folder and below it, folder by folder in the order of names. -/
partial def below (path : String) : IO (List (List String)) := do
  let entries ← (← IO.FS.realPath path).readDir
  let names := (entries.toList.map (·.fileName)).mergeSort (fun a b => decide (a ≤ b))
  let found ← names.mapM fun name => do
    let path := path ++ "/" ++ name
    if ← isFolder path then (fun inside => inside.map (name :: ·)) <$> below path
    else pure [[name]]
  pure found.flatten

/-- The files of the system. -/
def files : Files IO where
  current := toString <$> IO.currentDir
  isThere := isThere
  isFile path := do pure ((← isThere path) && !(← isFolder path))
  isFolder := isFolder
  read := readText
  write path text := attempt (IO.FS.writeFile path text)
  makeFolders path := attempt (IO.FS.createDirAll path)
  below path := do pure (((← attempt (below path)).toOption).getD [])

/-- The clock of the system. What it will say is not known; seeds that differ are all that is asked
of it, so it counts on from what it says now. -/
def clock : IO Clock := do
  let now ← IO.monoNanosNow
  pure ⟨fun time => (now + time).toUInt32⟩

/-- The script engine with the files and the clock of the system. -/
def host : Host IO Script.Interpreter where
  engine := Script.engine
  fresh := .seeded
  files := files
  clock := clock

/-- Writes text at once. -/
def write (text : String) : IO Unit := do
  let output ← IO.getStdout
  output.putStr text
  output.flush

/-- Goes on with a game for as long as the player types. -/
partial def converse (player : Player) (answer : LineMode.Answer Script.Interpreter) :
    IO UInt8 := do
  let line ← match answer.next with
    | .ask =>
      write answer.output
      (← IO.getStdin).getLine
    | _ => pure ""
  if line.isEmpty then
    let ending := CommandLine.endOf answer
    match answer.next with
    | .ask => pure ending.code
    | _ =>
      write ending.output
      pure ending.code
  else converse player (← LineMode.answer host player line answer.game)

end Program

end Gamebook

/-- Carries out the command line. -/
def main (words : List String) : IO UInt32 := do
  match ← Gamebook.CommandLine.opening Gamebook.Program.host words with
  | .ended ending =>
    Gamebook.Program.write ending.output
    pure ending.code.toUInt32
  | .playing player session =>
    let answer := Gamebook.LineMode.begin Gamebook.Script.engine session
    pure (← Gamebook.Program.converse player answer).toUInt32
