import Gamebook.Value

/-!
# Gamebook documents

A gamebook as it is written: its title and credits, its variables, the code that runs once, the
handlers of events and hooks, and its sections with their options. Everything keeps the order of
the document.
-/

namespace Gamebook

/-- An option with all its attributes. -/
structure OptionDetail where
  text : String
  goto : Option String := none
  condition : Option String := none
  run : Option String := none
  notify : Option String := none
  flags : List String := []
  hidden : Bool := false

/-- An option: a text and a target, or a record of attributes. -/
inductive OptionSpec where
  | pair (text goto : String)
  | detailed (detail : OptionDetail)

/-- An event handler. -/
structure EventSpec where
  params : List String := []
  run : String := ""

/-- A hook handler. -/
structure HookSpec where
  run : String := ""

/-- A section. -/
structure SectionSpec where
  title : Option String := none
  text : String := ""
  vars : Variables := []
  run : Option String := none
  options : Fields OptionSpec := []

/-- A gamebook as it is written. -/
structure Document where
  title : String := "Untitled Story"
  author : Option String := none
  version : Option String := none
  vars : Variables := []
  init : Option String := none
  events : Fields EventSpec := []
  hooks : Fields HookSpec := []
  sections : Fields SectionSpec := []

end Gamebook
