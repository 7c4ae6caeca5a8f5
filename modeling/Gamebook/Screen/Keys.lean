import Gamebook.Player
import Gamebook.Screen.Basic

/-!
# Keys of the full-screen player

What each key does to the session and to the screen. A key that fails leaves the screen as it is.
-/

namespace Gamebook

/-- A key press. -/
inductive Key where
  | up
  | down
  | enter
  | escape
  /-- The interrupt key. -/
  | interrupt
  | char (c : Char)
  /-- A key that means nothing here. -/
  | other
  deriving Repr, DecidableEq

/-- The full-screen player in play. -/
structure ScreenGame (σ : Type) where
  session : Session σ
  screen : Screen

namespace ScreenGame

variable {m : Type → Type} [Monad m] {σ : Type}

/-- What a key leads to: whether the player leaves, or why the key failed. -/
abbrev Pressed (σ : Type) := Except Fault Bool × ScreenGame σ

/-- The screen changes, and the player stays. -/
def stay (game : ScreenGame σ) (change : Screen → Screen) : Pressed σ :=
  (.ok false, { game with screen := change game.screen })

/-- A boundary is shown in some way. -/
def showing (game : ScreenGame σ) (shown : Except Fault Boundary × Session σ)
    (change : Boundary → Screen → Screen) : Pressed σ :=
  match shown with
  | (.ok boundary, session) => ({ game with session }.stay (change boundary))
  | (.error fault, session) => (.error fault, { game with session })

/-- Moves the selection, unless text is still appearing or there is nothing to select. -/
def move (game : ScreenGame σ) (change : Menu → Menu) : Pressed σ :=
  game.stay fun screen =>
    if screen.pane.isBusy then screen.withStatus "text streaming..."
    else if screen.menu.offers.isEmpty then screen.withStatus "no options"
    else { screen with menu := change screen.menu }

/-- Skips text that is still appearing, or else follows the selected option. -/
def enter (E : Engine σ) (game : ScreenGame σ) : Pressed σ :=
  if game.screen.pane.isBusy then
    game.stay fun screen => { screen with pane := screen.pane.skip }
  else
    match game.screen.menu.selected? with
    | none => game.stay (Screen.withStatus "no options")
    | some offer =>
      match game.session.choose E offer.id with
      | (.error fault, session) => (.error fault, { game with session })
      | (.ok followed, session) =>
        game.showing (Boundary.afterChoice E followed session) fun boundary screen =>
          (screen.append boundary).withStatus ("chose " ++ offer.id)

/-- Shows a session from its beginning on. -/
def showAnew (E : Engine σ) (status : String) (session : Session σ) (game : ScreenGame σ) :
    Pressed σ :=
  game.showing (Boundary.ofSession E session) fun boundary screen =>
    (screen.replace boundary).withStatus status

/-- One key press. -/
def press (host : Host m σ) (player : Player) (key : Key) (game : ScreenGame σ) :
    m (Pressed σ) :=
  match key with
  | .escape => pure (.ok true, game)
  | .interrupt => pure (.ok true, game)
  | .up => pure (game.move Menu.up)
  | .down => pure (game.move Menu.down)
  | .enter => pure (game.enter host.engine)
  | .char 'q' => pure (.ok true, game)
  | .char 'h' =>
    pure (game.stay fun screen => { screen with helpShown := !screen.helpShown })
  | .char 'r' =>
    match game.session.restart host.engine with
    | (.ok (), session) => pure (game.showAnew host.engine "restarted" session)
    | (.error fault, session) => pure (.error fault, { game with session })
  | .char 's' => do
    match ← (player.save host game.session).run with
    | .ok () => pure (game.stay (Screen.withStatus ("saved to " ++ player.stateFile)))
    | .error fault => pure (.error fault, game)
  | .char 'l' => do
    match ← (player.load host).run with
    | .ok session =>
      pure (game.showAnew host.engine ("loaded from " ++ player.stateFile) session)
    | .error fault => pure (.error fault, game)
  | .char _ => pure (.ok false, game)
  | .other => pure (.ok false, game)

end ScreenGame

end Gamebook
