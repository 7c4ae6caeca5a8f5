import Gamebook.Document.Check
import Gamebook.Document.Decode
import Gamebook.Markup.Tree

/-!
# From text to gamebook

A gamebook's text is markup; its data must have the shape of a gamebook, and its names must be
usable.
-/

namespace Gamebook

/-- The gamebook that a text describes. -/
def Document.ofText (text : String) : Except Fault Document := do
  let data ← Data.ofMarkup text
  let document ← (Document.ofData .markup data).mapError (fun m => .shape m.message)
  document.check
  pure document

end Gamebook
