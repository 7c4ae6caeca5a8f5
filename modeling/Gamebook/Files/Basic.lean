/-!
# Files

What the player needs of a file system. Operations that fail say why in the words of the system.
-/

namespace Gamebook

/-- Access to files in a monad. -/
structure Files (m : Type → Type) where
  /-- The folder that relative paths start from. -/
  current : m String
  /-- The path leads to something. -/
  isThere : String → m Bool
  /-- The path leads to a file. -/
  isFile : String → m Bool
  /-- The path leads to a folder. -/
  isFolder : String → m Bool
  /-- The text of a file. -/
  read : String → m (Except String String)
  /-- Replaces the text of a file, which need not be there. -/
  write : String → String → m (Except String Unit)
  /-- Makes a folder and those that lead to it, where they are missing. -/
  makeFolders : String → m (Except String Unit)
  /-- The files in a folder and in the folders below it, each as the names that lead to it, folder
  by folder in the order of names. -/
  below : String → m (List (List String))

end Gamebook
