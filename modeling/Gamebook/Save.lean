import Gamebook.Value

/-!
# Saves

What a save keeps of a game: where the player is, the declared variables, the progress in every
section that was entered, and the dice.
-/

namespace Gamebook

/-- The progress in one section. -/
structure Progress where
  visits : UInt32
  hiddenOptions : List String := []
  /-- The private variables. -/
  vars : Variables := []

/-- A saved game. Variables and sections are sorted by name. -/
structure Save where
  /-- The format of the save. -/
  schema : String
  storyTitle : String
  sectionId : String
  /-- The declared variables. -/
  globals : Variables
  sections : Fields Progress := []
  dice : Option UInt32 := none

/-- The format that this library writes, and the only one it resumes. -/
def Save.currentSchema : String := "codex-save.v1"

end Gamebook
