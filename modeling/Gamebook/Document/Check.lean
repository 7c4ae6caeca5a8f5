import Gamebook.Document.Basic
import Gamebook.Fault
import Gamebook.Text.Name

/-!
# Checking a gamebook

What the shape of a document cannot express: there are sections, scripts can use the names of
variables, events, parameters and hooks, and no section or option id is blank.
-/

namespace Gamebook

namespace Document

/-- Refuses a name that is no identifier. -/
def requireIdentifier (what name : String) : Except Fault Unit :=
  if isIdentifier name then .ok () else .error (.badName what name)

/-- Accepts a document whose names and ids are usable, else says which is not. -/
def check (document : Document) : Except Fault Unit := do
  if document.sections.isEmpty then throw .noSections
  for name in document.vars.names do
    requireIdentifier "variable" name
  for (eventId, event) in document.events do
    requireIdentifier "event" eventId
    for param in event.params do
      requireIdentifier s!"parameter of event \"{eventId}\"" param
  for hookId in document.hooks.names do
    requireIdentifier "hook" hookId
  for (sectionId, spec) in document.sections do
    if Text.isBlank sectionId then throw .emptySectionId
    for optionId in spec.options.names do
      if Text.isBlank optionId then throw (.emptyOptionId sectionId)

end Document

end Gamebook
