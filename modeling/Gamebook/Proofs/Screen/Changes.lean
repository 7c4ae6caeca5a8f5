import Gamebook.Proofs.ScreenGames

/-!
# What becomes of a screen

Whatever happens to a game, its screen changes in one of six ways, as far as the text pane and the
menu go. What all six keep holds of every screen that a game comes to.

* `Screen.Change` : the six ways.
* `ScreenGame.happen_change` : every happening is one of them.
* `ScreenGame.Reached` : the states that a game comes to.
* `ScreenGame.Reached.keeps` : what the changes keep.
-/

namespace Gamebook

/-- What can become of pane and menu of a screen. -/
inductive Screen.Change (before after : Screen) : Prop where
  /-- Both stay; the status line or the help may be another. -/
  | told (hpane : after.pane = before.pane) (hmenu : after.menu = before.menu)
  | ticked (hpane : after.pane = before.pane.tick.2) (hmenu : after.menu = before.menu)
  | skipped (hpane : after.pane = before.pane.skip) (hmenu : after.menu = before.menu)
  /-- The selection moves, in a menu that has something to select. -/
  | moved {change : Menu → Menu} (hchange : change = Menu.up ∨ change = Menu.down)
    (hoffers : before.menu.offers ≠ []) (hpane : after.pane = before.pane)
    (hmenu : after.menu = change before.menu)
  | appended (boundary : Boundary) (hpane : after.pane = before.pane.enqueue ("" :: boundary.lines))
    (hmenu : after.menu = .ofOffers boundary.offers)
  | replaced (boundary : Boundary) (hpane : after.pane = .ofLines boundary.lines)
    (hmenu : after.menu = .ofOffers boundary.offers)

namespace ScreenGame

variable {σ τ : Type} {host : Host (StateM τ) σ} {player : Player} {game : ScreenGame σ} {s : τ}

/-! ## Keys -/

theorem move_change {change : Menu → Menu} (hchange : change = Menu.up ∨ change = Menu.down) :
    game.screen.Change (game.move change).2.screen := by
  unfold move stay
  dsimp only
  split
  · exact .told rfl rfl
  · split
    · exact .told rfl rfl
    · next hoffers => exact .moved hchange (by simpa using hoffers) rfl rfl

theorem enter_change (E : Engine σ) : game.screen.Change (game.enter E).2.screen := by
  unfold enter
  split
  · exact .skipped rfl rfl
  · split
    · exact .told rfl rfl
    · next offer _ =>
      split
      · exact .told rfl rfl
      · next followed session _ =>
        unfold showing
        split
        · next boundary _ _ => exact .appended boundary rfl rfl
        · exact .told rfl rfl

theorem showAnew_change (E : Engine σ) (status : String) (session : Session σ) :
    game.screen.Change (game.showAnew E status session).2.screen := by
  unfold showAnew showing
  split
  · next boundary _ _ => exact .replaced boundary rfl rfl
  · exact .told rfl rfl

/-- Every key changes the screen in one of the six ways, also if it fails. -/
theorem press_change (host : Host (StateM τ) σ) (player : Player) (key : Key)
    (game : ScreenGame σ) (s : τ) :
    game.screen.Change (game.press host player key s).1.2.screen := by
  unfold press
  split
  case h_3 => exact move_change (.inl rfl)
  case h_4 => exact move_change (.inr rfl)
  case h_5 => exact enter_change host.engine
  case h_8 =>
    rcases game.session.restart host.engine with ⟨fault | ⟨⟩, session⟩
    · exact .told rfl rfl
    · exact showAnew_change host.engine _ _
  case h_9 =>
    change game.screen.Change (game.press host player (.char 's') s).1.2.screen
    rw [press_save]
    rcases player.save host game.session s with ⟨fault | ⟨⟩, s'⟩
    · exact .told rfl rfl
    · exact .told rfl rfl
  case h_10 =>
    change game.screen.Change (game.press host player (.char 'l') s).1.2.screen
    rw [press_load]
    rcases player.load host s with ⟨fault | session, s'⟩
    · exact .told rfl rfl
    · exact showAnew_change host.engine _ _
  case h_1 | h_2 | h_6 | h_7 | h_11 | h_12 => exact .told rfl rfl

/-- So does everything that can happen to a game. -/
theorem happen_change (host : Host (StateM τ) σ) (player : Player) (now : ScreenGame σ × τ)
    (happening : Happening) :
    now.1.screen.Change (happen host player now happening).1.screen := by
  cases happening with
  | key key => exact press_change host player key now.1 now.2
  | tick => exact .ticked rfl rfl
  | telling status => exact .told rfl rfl

/-! ## Reached states -/

/-- The states that a game comes to: a boundary is shown in place of whatever was there, on an empty
screen, or below the text, and then anything can happen. The session is any, and so are the
files. -/
inductive Reached (host : Host (StateM τ) σ) (player : Player) : ScreenGame σ × τ → Prop where
  | replaced (session : Session σ) (screen : Screen) (boundary : Boundary) (s : τ) :
    Reached host player (⟨session, screen.replace boundary⟩, s)
  | begun (session : Session σ) {screen : Screen} (hpane : screen.pane = {})
    (hmenu : screen.menu = {}) (s : τ) : Reached host player (⟨session, screen⟩, s)
  | appended {now : ScreenGame σ × τ} (session : Session σ) (boundary : Boundary) (s : τ)
    (h : Reached host player now) :
    Reached host player (⟨session, now.1.screen.append boundary⟩, s)
  | happened {now : ScreenGame σ × τ} (happening : Happening) (h : Reached host player now) :
    Reached host player (happen host player now happening)

/-- What empty screens and replaced ones have and the changes keep, all reached screens have. -/
theorem Reached.keeps {now : ScreenGame σ × τ} (h : Reached host player now)
    {P : Typewriter → Menu → Prop} (hempty : P {} {})
    (hstep : ∀ before after : Screen, P before.pane before.menu → before.Change after →
      P after.pane after.menu) : P now.1.screen.pane now.1.screen.menu := by
  induction h with
  | replaced session screen boundary s =>
    exact hstep {} (screen.replace boundary) hempty (.replaced boundary rfl rfl)
  | begun session hpane hmenu s =>
    rw [hpane, hmenu]
    exact hempty
  | appended session boundary s h ih => exact hstep _ _ ih (.appended boundary rfl rfl)
  | happened happening h ih => exact hstep _ _ ih (happen_change host player _ happening)

theorem reached_run {now : ScreenGame σ × τ} (h : Reached host player now)
    (happenings : List Happening) : Reached host player (run host player now happenings) := by
  induction happenings generalizing now with
  | nil => exact h
  | cons happening rest ih => exact ih (.happened happening h)

/-- The game of a source with its first frame, if the source can be played. -/
def opening? (E : Engine σ) (source : Source σ) : Option (ScreenGame σ) := do
  let session ← (Session.create E source none).toOption
  let shown := Boundary.ofSession E session
  let boundary ← shown.1.toOption
  some ⟨shown.2, .start shown.2.story.title boundary⟩

theorem reached_opening (host : Host (StateM τ) σ) (player : Player) {source : Source σ}
    (h : opening? host.engine source = some game) (s : τ) : Reached host player (game, s) := by
  obtain ⟨session, -, h⟩ := Option.bind_eq_some_iff.mp h
  obtain ⟨boundary, -, h⟩ := Option.bind_eq_some_iff.mp h
  cases h
  exact .replaced ..

end ScreenGame

end Gamebook
