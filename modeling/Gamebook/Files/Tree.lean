import Gamebook.Fields
import Gamebook.Files.Basic
import Gamebook.Files.Path

/-!
# A file system as a tree

A disk is a tree of folders with sorted entries and a current folder. It answers like a file system
that only one program uses, also where an operation fails.

* `Disk.files` : access to the files of a disk.
-/

namespace Gamebook

/-- A file or a folder. -/
inductive Tree where
  /-- A file; its text, unless its bytes are no text. -/
  | file (text : Option String)
  /-- A folder with its entries, sorted by name. -/
  | folder (entries : List (String × Tree))

/-- Why an operation on files fails. -/
inductive FileTrouble where
  | missing
  | taken
  | notFolder
  | isFolder
  | noText
  deriving Repr, DecidableEq

/-- What the system says about it. -/
def FileTrouble.message : FileTrouble → String
  | missing => "No such file or directory (os error 2)"
  | taken => "File exists (os error 17)"
  | notFolder => "Not a directory (os error 20)"
  | isFolder => "Is a directory (os error 21)"
  | noText => "stream did not contain valid UTF-8"

namespace Tree

/-- What the names lead to. -/
def find? : Tree → List String → Option Tree
  | tree, [] => some tree
  | .file _, _ :: _ => none
  | .folder entries, name :: rest =>
    match Fields.find? name entries with
    | some tree => find? tree rest
    | none => none

/-- The tree with something put where the names lead to; missing folders are made. -/
def put (new : Tree) : List String → Tree → Tree
  | [], _ => new
  | _ :: _, .file text => .file text
  | name :: rest, .folder entries =>
    let old := (Fields.find? name entries).getD (.folder [])
    .folder (Fields.insert name (put new rest old) entries)

mutual

/-- The files of a tree, each as the names that lead to it. -/
def walk : Tree → List (List String)
  | .file _ => [[]]
  | .folder entries => walkEntries entries

/-- The files below the entries of a folder. -/
def walkEntries : List (String × Tree) → List (List String)
  | [] => []
  | (name, tree) :: rest => (walk tree).map (name :: ·) ++ walkEntries rest

end

end Tree

/-- A tree of files and the folder that relative paths start from. -/
structure Disk where
  root : Tree
  current : String

namespace Disk

/-- The place that names lead to from a place; all but the last must lead to folders. -/
def follow (disk : Disk) : List String → List String → Except FileTrouble (List String)
  | [], place => .ok place
  | name :: rest, place =>
    match disk.root.find? place with
    | none => .error .missing
    | some (.file _) => .error .notFolder
    | some (.folder _) => follow disk rest (if name = ".." then place.dropLast else place ++ [name])

/-- The place that a path leads to, as the names from the root. -/
def locate (disk : Disk) (path : String) : Except FileTrouble (List String) :=
  if path = "" then .error .missing
  else disk.follow (Path.names (Path.join disk.current path)) []

/-- What is at the end of a path. -/
def find? (disk : Disk) (path : String) : Except FileTrouble Tree :=
  match disk.locate path with
  | .error trouble => .error trouble
  | .ok place =>
    match disk.root.find? place with
    | none => .error .missing
    | some (.file text) =>
      if Path.leadsToFolder path then .error .notFolder else .ok (.file text)
    | some (.folder entries) => .ok (.folder entries)

/-- The text of a file. -/
def read (disk : Disk) (path : String) : Except FileTrouble String :=
  match disk.find? path with
  | .error trouble => .error trouble
  | .ok (.folder _) => .error .isFolder
  | .ok (.file none) => .error .noText
  | .ok (.file (some text)) => .ok text

/-- The disk with the text of a file replaced. -/
def write (disk : Disk) (path text : String) : Except FileTrouble Disk :=
  match disk.locate path with
  | .error trouble => .error trouble
  | .ok place =>
    match disk.root.find? place with
    | some (.folder _) => .error .isFolder
    | some (.file _) =>
      if Path.leadsToFolder path then .error .notFolder
      else .ok { disk with root := Tree.put (.file (some text)) place disk.root }
    | none =>
      if Path.leadsToFolder path then .error .isFolder
      else .ok { disk with root := Tree.put (.file (some text)) place disk.root }

/-- The disk with the folders that names lead to. -/
def makeAt (disk : Disk) : List String → List String → Except FileTrouble Disk
  | [], _ => .ok disk
  | name :: rest, place =>
    let next := if name = ".." then place.dropLast else place ++ [name]
    match disk.root.find? next with
    | some (.folder _) => makeAt disk rest next
    | some (.file _) => .error (if rest.isEmpty then .taken else .notFolder)
    | none => makeAt { disk with root := Tree.put (.folder []) next disk.root } rest next

/-- The disk with a folder and those that lead to it. -/
def makeFolders (disk : Disk) (path : String) : Except FileTrouble Disk :=
  disk.makeAt (Path.names (Path.join disk.current path)) []

/-- The files below a folder. -/
def below (disk : Disk) (path : String) : List (List String) :=
  match disk.find? path with
  | .ok tree => tree.walk
  | .error _ => []

/-- An operation that changes the disk unless it fails. -/
def changing (operation : Disk → Except FileTrouble Disk) : StateM Disk (Except String Unit) :=
  fun disk =>
    match operation disk with
    | .ok disk => (.ok (), disk)
    | .error trouble => (.error trouble.message, disk)

/-- Access to the files of a disk. -/
def files : Files (StateM Disk) where
  current disk := (disk.current, disk)
  isThere path disk := ((disk.find? path).isOk, disk)
  isFile path disk := (disk.find? path matches .ok (.file _), disk)
  isFolder path disk := (disk.find? path matches .ok (.folder _), disk)
  read path disk := ((disk.read path).mapError FileTrouble.message, disk)
  write path text := changing (fun disk => disk.write path text)
  makeFolders path := changing (fun disk => disk.makeFolders path)
  below path disk := (disk.below path, disk)

end Disk

end Gamebook
