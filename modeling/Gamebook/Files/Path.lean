import Gamebook.Text.Blank

/-!
# Paths

Paths as texts: names separated by slashes. Empty names and single dots between slashes stand for
nothing.
-/

namespace Gamebook

namespace Path

/-- The path starts at the root. -/
def isAbsolute (path : String) : Bool := Text.startsWith "/" path

/-- The path seen from a folder. -/
def join (folder path : String) : String :=
  if isAbsolute path then path
  else if folder.endsWith "/" then folder ++ path
  else folder ++ "/" ++ path

/-- The names between the slashes. -/
def names (path : String) : List String :=
  ((Text.splitAt (· == '/') path.toList).map String.ofList).filter
    (fun name => name ≠ "" ∧ name ≠ ".")

/-- The path ends in a slash or in a dot, so that it can only lead to a folder. -/
def leadsToFolder (path : String) : Bool :=
  match (Text.splitAt (· == '/') path.toList).getLast? with
  | some [] => true
  | some ['.'] => true
  | _ => false

/-- The last name, if it names something in the folder before it. -/
def fileName? (path : String) : Option String :=
  match (names path).getLast? with
  | some name => if name = ".." then none else some name
  | none => none

/-- The folder that holds what the path leads to. -/
def folder (path : String) : String :=
  let before := "/".intercalate (names path).dropLast
  if isAbsolute path then "/" ++ before else if before = "" then "." else before

/-- A file name cut at its last dot: the stem and the extension. A dot in front of everything else
belongs to the stem. -/
def cutExtension (name : String) : String × Option String :=
  let (after, before) := name.toList.reverse.span (· ≠ '.')
  match before with
  | _ :: stem =>
    if stem.isEmpty then (name, none)
    else (String.ofList stem.reverse, some (String.ofList after.reverse))
  | [] => (name, none)

/-- The name of a file without its extension. -/
def stem? (path : String) : Option String :=
  (fileName? path).map (fun name => (cutExtension name).1)

end Path

end Gamebook
