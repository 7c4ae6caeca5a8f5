/-!
# Names that scripts can use

Identifiers are ASCII words; any other text becomes one by replacing what does not fit.
-/

namespace Gamebook

/-- ASCII letter or underscore. -/
def isNameStart (c : Char) : Bool := c.isAlpha || c == '_'

/-- ASCII letter, digit or underscore. -/
def isNameChar (c : Char) : Bool := c.isAlphanum || c == '_'

/-- A letter or underscore followed by letters, digits and underscores. -/
def isIdentifier (name : String) : Bool :=
  match name.toList with
  | [] => false
  | c :: rest => isNameStart c && rest.all isNameChar

/-- Every character that no identifier may hold becomes an underscore. -/
def toNameChars (text : String) : String :=
  String.ofList (text.toList.map (fun c => if isNameChar c then c else '_'))

/-- The global that holds the private variables of a section. -/
def sectionNamespace (sectionId : String) : String := "__s_" ++ toNameChars sectionId

/-- The function that handles an event. -/
def eventFunction (eventId : String) : String := "event_" ++ eventId

/-- The function that runs for a hook. -/
def hookFunction (hookId : String) : String := "hook_" ++ hookId

end Gamebook
