import Gamebook.Fault
import Gamebook.Files.Path
import Gamebook.Host

/-!
# Story files

Stories are files with the extension `yaml` or `yml`. One is found by its path, by the reference
that player states keep, or by its name in a folder: the first of that name in the order in which
stories are listed.
-/

namespace Gamebook

/-- A story file that was read. -/
structure StoryFile where
  /-- What player states refer to it by. -/
  ref : String
  name : String
  path : String
  text : String

namespace Shelf

variable {m : Type → Type} [Monad m]

/-- How references to story files begin. -/
def refStart : String := "story-file:"

/-- The folder that stories are looked for in. -/
def defaultFolder : String := "stories"

/-- The name of the story that is played if none is asked for. -/
def defaultName : String := "main"

/-- The path from the root. -/
def absolute (files : Files m) (path : String) : Attempt m String :=
  (fun current => Path.join current path) <$> (files.current : Attempt m String)

/-- Reads a story file. -/
def readFile (files : Files m) (path : String) : Attempt m StoryFile := do
  let text ← Attempt.orFault .storyUnreadable (files.read path)
  pure { ref := refStart ++ path, name := (Path.stem? path).getD "story", path, text }

/-- The story file at a path. -/
def ofPath (files : Files m) (path : String) : Attempt m StoryFile := do
  let path ← absolute files path
  if ← (files.isFile path : Attempt m Bool) then readFile files path
  else throw (.storyFileMissing path)

/-- The story file that a reference names. -/
def ofRef (files : Files m) (ref : String) : Attempt m StoryFile :=
  match Text.afterStart? refStart ref with
  | some path => ofPath files path
  | none => throw (.storyRefUnsupported ref)

/-- The absolute path of a folder of stories. -/
def folder (files : Files m) (path : String) : Attempt m String := do
  let path ← absolute files path
  if !(← (files.isThere path : Attempt m Bool)) then throw (.storiesFolderMissing path)
  else if !(← (files.isFolder path : Attempt m Bool)) then throw (.storiesNotFolder path)
  else pure path

/-- The name of the story in a file; none if the file holds no story. -/
def storyName? (fileName : String) : Option String :=
  match Path.cutExtension fileName with
  | (stem, some extension) =>
    if extension = "yaml" ∨ extension = "yml" then some stem else none
  | (_, none) => none

/-- The stories among files given by the names that lead to them: the name of each with its path,
sorted by name, in the given order where names agree. -/
def stories (found : List (List String)) : List (String × String) :=
  (found.filterMap (fun names =>
    (names.getLast?.bind storyName?).map (fun name => (name, "/".intercalate names)))).mergeSort
    (fun a b => decide (a.1 ≤ b.1))

/-- The stories in a folder, with their paths seen from the folder. -/
def list (files : Files m) (folder : String) : m (List (String × String)) :=
  stories <$> files.below folder

/-- The story file of this name in a folder. -/
def ofName (files : Files m) (path name : String) : Attempt m StoryFile := do
  let folder ← folder files path
  match (← ExceptT.lift (list files folder)).lookup name with
  | some found => readFile files (Path.join folder found)
  | none => throw (.storyNameUnknown name folder)

end Shelf

end Gamebook
