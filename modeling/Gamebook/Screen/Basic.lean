import Gamebook.Boundary
import Gamebook.Screen.Menu
import Gamebook.Screen.Typewriter

/-!
# The full-screen player

What the full-screen player shows: titles, typewriter text, a menu, a status line. A step appends
its boundary to the text; beginning anew or loading a state replaces the text.
-/

namespace Gamebook

/-- What the full-screen player shows. -/
structure Screen where
  storyTitle : String := ""
  sectionTitle : String := ""
  pane : Typewriter := {}
  menu : Menu := {}
  /-- There is nothing left to choose. -/
  ended : Bool := false
  helpShown : Bool := false
  status : String := ""

namespace Screen

/-- Shows the section of a boundary in title and menu. -/
def withSection (boundary : Boundary) (screen : Screen) : Screen :=
  { screen with
    sectionTitle := boundary.title
    menu := .ofOffers boundary.offers
    ended := boundary.isEnd }

/-- Shows a boundary below the text, after an empty line. -/
def append (boundary : Boundary) (screen : Screen) : Screen :=
  { screen with pane := screen.pane.enqueue ("" :: boundary.lines) }.withSection boundary

/-- Shows a boundary in place of the text. -/
def replace (boundary : Boundary) (screen : Screen) : Screen :=
  { screen with pane := .ofLines boundary.lines }.withSection boundary

/-- The first screen of a story. -/
def start (storyTitle : String) (boundary : Boundary) : Screen :=
  { storyTitle, status := "ready" : Screen }.replace boundary

/-- The screen with another status. -/
def withStatus (status : String) (screen : Screen) : Screen := { screen with status }

end Screen

end Gamebook
