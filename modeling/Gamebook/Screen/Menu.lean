import Gamebook.Choice

/-!
# Menus

A list of options with one selected, seen through a window of five rows. The window moves only as
far as it must to keep the selected option in view.
-/

namespace Gamebook

/-- Options, the index of the selected one, and the index of the first in the window. -/
structure Menu where
  offers : List Offer := []
  selected : Nat := 0
  scroll : Nat := 0

namespace Menu

/-- The rows of the window. -/
def windowRows : Nat := 5

/-- A menu with its first option selected. -/
def ofOffers (offers : List Offer) : Menu := { offers }

/-- The selected option. -/
def selected? (menu : Menu) : Option Offer := menu.offers[menu.selected]?

/-- Selects the option before, if there is one. -/
def up (menu : Menu) : Menu :=
  let selected := menu.selected - 1
  { menu with selected, scroll := if selected < menu.scroll then selected else menu.scroll }

/-- Selects the option behind, if there is one. -/
def down (menu : Menu) : Menu :=
  let selected := min (menu.selected + 1) (menu.offers.length - 1)
  let outside := windowRows < menu.offers.length ∧ menu.scroll + windowRows ≤ selected
  { menu with
    selected
    scroll := if outside then selected - windowRows + 1 else menu.scroll }

end Menu

end Gamebook
