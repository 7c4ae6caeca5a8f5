import Gamebook.Screen.Basic

/-!
# Frames

The rows of a frame of the full-screen player, from top to bottom: titles, state file, status, the
last rows of the text, a divider, the menu's window, key hints. Rows are cut to a width, a little
less than that of the terminal, and as many rows of text are shown as the others leave room for.
-/

namespace Gamebook

namespace Frame

/-- A text cut to a number of characters; an ellipsis stands for what is cut off. -/
def cut (width : Nat) (text : String) : String :=
  if text.length ≤ width then text
  else if width = 0 then ""
  else String.ofList (text.toList.take (width - 1)) ++ "…"

/-- Characters in pieces of a length; the last piece may be shorter. -/
def chunks (width : Nat) (cs : List Char) : List (List Char) :=
  if _h : width = 0 ∨ cs.length ≤ width then [cs]
  else cs.take width :: chunks width (cs.drop width)
  termination_by cs.length
  decreasing_by
    simp only [List.length_drop]
    omega

/-- A line of text in rows of a width. -/
def wrap (width : Nat) (line : String) : List String :=
  (chunks width line.toList).map String.ofList

/-- A text without its line breaks. -/
def unbroken (text : String) : String := String.join (Text.lines text)

/-- The last items of a list, at most a number of them. -/
def lastOf {α : Type} (count : Nat) (items : List α) : List α := items.drop (items.length - count)

/-- The width that rows are cut to. -/
def contentWidth (width : Nat) : Nat := max (width - 2) 16

/-- The menu is shown. -/
def menuShown (screen : Screen) : Bool :=
  !screen.pane.isBusy && !screen.menu.offers.isEmpty

/-- The rows that are not text. -/
def reservedRows (screen : Screen) : Nat :=
  11 + (if screen.ended then 1 else 0) + (if screen.helpShown then 1 else 0)
    + (if menuShown screen then 1 else 0)

/-- The rows of the text that are shown. -/
def textRows (width height : Nat) (screen : Screen) : List String :=
  lastOf (max (height - reservedRows screen) 1)
    (screen.pane.visible.flatMap (wrap (contentWidth width)))

/-- A row of the menu's window; a blank one where no option is shown. -/
def menuRow (width : Nat) (screen : Screen) (row : Nat) : String :=
  let index := screen.menu.scroll + row
  match screen.menu.offers[index]? with
  | some offer =>
    if menuShown screen then
      (if index = screen.menu.selected then "> " else "  ") ++ toString (index + 1) ++ ". "
        ++ cut (max (contentWidth width - 6) 8) offer.text
    else "   "
  | none => "   "

/-- The row that tells which options the window shows, if it does not show all. -/
def windowRow (width : Nat) (screen : Screen) : String :=
  let count := screen.menu.offers.length
  if menuShown screen && Menu.windowRows < count then
    cut (contentWidth width)
      ("window " ++ toString (screen.menu.scroll + 1) ++ "-"
        ++ toString (min (screen.menu.scroll + Menu.windowRows) count) ++ " / " ++ toString count)
  else " "

/-- The rows of a frame for a terminal. -/
def rows (width height : Nat) (stateFile : String) (screen : Screen) : List String :=
  let row := cut (contentWidth width)
  [unbroken (row (screen.storyTitle ++ " | " ++ screen.sectionTitle)),
      row ("state: " ++ stateFile),
      row ("status: " ++ screen.status)]
    ++ (textRows width height screen).map unbroken
    ++ ["".pushn '─' (contentWidth width)]
    ++ (if menuShown screen then [row "options (up/down + enter):"] else [])
    ++ (List.range Menu.windowRows).map (menuRow width screen)
    ++ [windowRow width screen]
    ++ (if screen.ended then ["[end] r restarts, l loads a save"] else [])
    ++ [row ("keys: up/down move | enter choose/skip text | s save | l load | r restart | "
      ++ "h help | q quit")]
    ++ (if screen.helpShown then
        [row ("saves keep the section, story and section variables, visit counts and used "
          ++ "options.")]
      else [])

end Frame

end Gamebook
