import Gamebook.Proofs.LineGames
import Gamebook.Proofs.Session.Belonging
import Gamebook.Proofs.Story.Offering
import Gamebook.Screen.Keys

/-!
# Games on the full screen

A key does at most one deed, first to the session and then to the screen. Whatever the deed was,
the session can be shown after it, so the screen follows; and a deed that fails leaves the player in
the section that the screen shows.

* `Screen.SameSection`, `Screen.Displays` : what title, menu and end of a screen go by.
* `ScreenGame.deed?`, `ScreenGame.Turn` : what a key does, and what may come of it.
* `ScreenGame.press_turn` : every key is a turn.
* `ScreenGame.Shows` : the screen shows the section that the session is in.
* `ScreenGame.Turn.shows` : a turn leads from a screen that does to one that does.
* `ScreenGame.run_shows` : the screen shows its session, whatever happens.
-/

namespace Gamebook

variable {σ τ : Type}

/-! ## Rows of the menu -/

/-- The options of a section are on offer in the order of the document. -/
theorem Story.SameBook.ids_offers_sublist {E : Engine σ} {document : Document} {engine : σ}
    {story : Story σ} (h : (Story.ofDocument document engine).SameBook story) {id : String}
    {s : Section} (hs : story.section? id = some s) {offers : List Offer}
    (ho : (story.offers E id).1 = .ok offers) :
    ∃ spec, document.sections.find? id = some spec ∧
      (offers.map Offer.id).Sublist spec.options.names := by
  obtain ⟨spec, hspec, heq⟩ := h.spec hs
  rw [offers_eq hs] at ho
  obtain rfl := Except.ok.inj ho
  refine ⟨spec, hspec, ?_⟩
  rw [ids_shown, ← Section.names_choices heq]
  exact Section.ids_listed_sublist (Section.ids_choices heq) E _ _

/-- The title of a section is the one that the document gives it. -/
theorem Section.shownTitle_ofSpec {id : String} {spec : SectionSpec} {s : Section}
    (h : (Section.ofSpec id spec).unplayed = s.unplayed) :
    (Section.ofSpec id spec).shownTitle = s.shownTitle := by
  have htitle := congrArg shownTitle h
  exact htitle

/-! ## Screens -/

namespace Screen

/-- Two screens show the same section: they agree on title, menu rows and end. -/
structure SameSection (before after : Screen) : Prop where
  sectionTitle : after.sectionTitle = before.sectionTitle
  offers : after.menu.offers = before.menu.offers
  ended : after.ended = before.ended

/-- A screen shows the section of a boundary. -/
structure Displays (boundary : Boundary) (screen : Screen) : Prop where
  sectionTitle : screen.sectionTitle = boundary.title
  offers : screen.menu.offers = boundary.offers
  ended : screen.ended = boundary.isEnd

end Screen

namespace ScreenGame

open LineMode (Deed)

/-! ## Turns -/

/-- What a key does to the session and to the state file; most keys only change the screen. -/
def deed? (game : ScreenGame σ) : Key → Option Deed
  | .enter =>
    if game.screen.pane.isBusy then none
    else game.screen.menu.selected?.map fun offer => .choose offer.id
  | .char 'r' => some .restart
  | .char 's' => some .save
  | .char 'l' => some .load
  | _ => none

/-- The player leaves with this key. -/
def leaves : Key → Bool
  | .escape | .interrupt | .char 'q' => true
  | _ => false

/-- What comes of one key: no deed is done, or one is done and fails, or it succeeds. The state is
that of the files. -/
inductive Turn (host : Host (StateM τ) σ) (player : Player) (key : Key) (before : ScreenGame σ)
    (s : τ) : Pressed σ → τ → Prop where
  /-- The session stays as it is, and the screen changes in nothing that tells of the section. -/
  | idle {screen : Screen} (hdeed : before.deed? key = none)
    (hscreen : before.screen.SameSection screen) :
    Turn host player key before s (.ok (leaves key), { before with screen }) s
  /-- A deed fails. The screen stays as it is, and the player in the section. -/
  | failed {deed : Deed} {fault : Fault} {failed : Session σ} {s' : τ}
    (hdeed : before.deed? key = some deed)
    (hperform : deed.perform host player before.session s = ((.error fault, failed), s'))
    (hcurrent : failed.current = before.session.current) :
    Turn host player key before s (.error fault, { before with session := failed }) s'
  /-- The session has been saved. -/
  | saved {screen : Screen} {s' : τ} (hdeed : before.deed? key = some .save)
    (hperform : Deed.save.perform host player before.session s = ((.ok (), before.session), s'))
    (hscreen : before.screen.SameSection screen) :
    Turn host player key before s (.ok false, { before with screen }) s'
  /-- Another deed has succeeded, and the screen shows its session. -/
  | shown {deed : Deed} {acted final : Session σ} {boundary : Boundary} {screen : Screen} {s' : τ}
    (hdeed : before.deed? key = some deed)
    (hperform : deed.perform host player before.session s = ((.ok (), acted), s'))
    (hshows : boundary.Shows host.engine acted final) (hdisplays : screen.Displays boundary) :
    Turn host player key before s (.ok false, ⟨final, screen⟩) s'

variable {host : Host (StateM τ) σ} {player : Player} {game : ScreenGame σ} {key : Key} {s s' : τ}

/-- A deed has failed. -/
theorem turn_failed (hat : game.session.AtCursor) {deed : Deed} {fault : Fault}
    {failed : Session σ} (hdeed : game.deed? key = some deed)
    (hperform : deed.perform host player game.session s = ((.error fault, failed), s')) :
    Turn host player key game s (.error fault, { game with session := failed }) s' :=
  .failed hdeed hperform (LineMode.perform_fails hat hperform).1

/-- A deed has succeeded, and its session is shown from the beginning on. -/
theorem turn_showAnew (hat : game.session.AtCursor) {deed : Deed} {acted : Session σ}
    (hdeed : game.deed? key = some deed)
    (hperform : deed.perform host player game.session s = ((.ok (), acted), s'))
    (status : String) :
    Turn host player key game s (game.showAnew host.engine status acted) s' := by
  obtain ⟨boundary, final, hshown, hshows, -⟩ :=
    (LineMode.perform_atCursor hat hperform).ofSession host.engine
  rw [showAnew, hshown]
  exact .shown hdeed hperform hshows ⟨rfl, rfl, rfl⟩

theorem move_turn (hdeed : game.deed? key = none) (hleaves : leaves key = false)
    {change : Menu → Menu} (hchange : (change game.screen.menu).offers = game.screen.menu.offers) :
    Turn host player key game s (game.move change) s := by
  unfold move stay
  rw [← hleaves]
  refine .idle hdeed ?_
  dsimp only
  split
  · exact ⟨rfl, rfl, rfl⟩
  · split
    · exact ⟨rfl, rfl, rfl⟩
    · exact ⟨rfl, hchange, rfl⟩

theorem enter_turn (hat : game.session.AtCursor) :
    Turn host player .enter game s (game.enter host.engine) s := by
  unfold enter
  split
  · next hbusy => exact .idle (by rw [deed?, if_pos hbusy]) ⟨rfl, rfl, rfl⟩
  · next hbusy =>
    have hdeed : game.deed? .enter =
        game.screen.menu.selected?.map fun offer => .choose offer.id := by
      rw [deed?, if_neg hbusy]
    split
    · next hnone =>
      rw [hnone] at hdeed
      exact .idle hdeed ⟨rfl, rfl, rfl⟩
    · next offer hsome =>
      rw [hsome] at hdeed
      have hperform : (Deed.choose offer.id).perform host player game.session s =
          (((game.session.choose host.engine offer.id).1.map fun _ => (),
            (game.session.choose host.engine offer.id).2), s) := rfl
      rcases hchoose : game.session.choose host.engine offer.id with ⟨fault | followed, chosen⟩
      · rw [hchoose] at hperform
        exact turn_failed hat hdeed hperform
      · rw [hchoose] at hperform
        obtain ⟨boundary, final, hshown, hshows, -⟩ :=
          (LineMode.perform_atCursor hat hperform).afterChoice host.engine followed
        simp only [hshown]
        exact .shown hdeed hperform hshows ⟨rfl, rfl, rfl⟩

theorem press_restart (game : ScreenGame σ) (s : τ) :
    game.press host player (.char 'r') s =
      (match game.session.restart host.engine with
        | (.ok (), session) => game.showAnew host.engine "restarted" session
        | (.error fault, session) => (.error fault, { game with session }), s) := by
  simp only [press]
  rcases game.session.restart host.engine with ⟨fault | ⟨⟩, session⟩ <;> rfl

theorem press_save (game : ScreenGame σ) (s : τ) :
    game.press host player (.char 's') s = match player.save host game.session s with
      | (.ok (), s') => (game.stay (Screen.withStatus ("saved to " ++ player.stateFile)), s')
      | (.error fault, s') => ((.error fault, game), s') := by
  simp only [press, bind, StateT.bind, ExceptT.run]
  rcases player.save host game.session s with ⟨fault | ⟨⟩, s'⟩ <;> rfl

theorem press_load (game : ScreenGame σ) (s : τ) :
    game.press host player (.char 'l') s = match player.load host s with
      | (.ok session, s') =>
        (game.showAnew host.engine ("loaded from " ++ player.stateFile) session, s')
      | (.error fault, s') => ((.error fault, game), s') := by
  simp only [press, bind, StateT.bind, ExceptT.run]
  rcases player.load host s with ⟨fault | session, s'⟩ <;> rfl

theorem restart_turn (hat : game.session.AtCursor) :
    ∃ pressed s', game.press host player (.char 'r') s = (pressed, s') ∧
      Turn host player (.char 'r') game s pressed s' := by
  have hperform : Deed.restart.perform host player game.session s =
    (game.session.restart host.engine, s) := rfl
  rw [press_restart]
  rcases hrestart : game.session.restart host.engine with ⟨fault | ⟨⟩, fresh⟩
  · rw [hrestart] at hperform
    exact ⟨_, _, rfl, turn_failed hat rfl hperform⟩
  · rw [hrestart] at hperform
    exact ⟨_, _, rfl, turn_showAnew hat rfl hperform _⟩

theorem save_turn (hat : game.session.AtCursor) :
    ∃ pressed s', game.press host player (.char 's') s = (pressed, s') ∧
      Turn host player (.char 's') game s pressed s' := by
  have hperform := LineMode.perform_save host player game.session s
  rw [press_save]
  rcases hsave : player.save host game.session s with ⟨fault | ⟨⟩, s'⟩
  · rw [hsave] at hperform
    exact ⟨_, _, rfl, turn_failed hat rfl hperform⟩
  · rw [hsave] at hperform
    exact ⟨_, _, rfl, .saved rfl hperform ⟨rfl, rfl, rfl⟩⟩

theorem load_turn (hat : game.session.AtCursor) :
    ∃ pressed s', game.press host player (.char 'l') s = (pressed, s') ∧
      Turn host player (.char 'l') game s pressed s' := by
  have hperform := LineMode.perform_load host player game.session s
  rw [press_load]
  rcases hload : player.load host s with ⟨fault | loaded, s'⟩
  · rw [hload] at hperform
    exact ⟨_, _, rfl, turn_failed hat rfl hperform⟩
  · rw [hload] at hperform
    exact ⟨_, _, rfl, turn_showAnew hat rfl hperform _⟩

/-- Every key is a turn. -/
theorem press_turn (host : Host (StateM τ) σ) (player : Player) (hat : game.session.AtCursor)
    (key : Key) (s : τ) :
    ∃ pressed s', game.press host player key s = (pressed, s') ∧
      Turn host player key game s pressed s' := by
  unfold press
  split
  case h_3 => exact ⟨_, _, rfl, move_turn rfl rfl rfl⟩
  case h_4 => exact ⟨_, _, rfl, move_turn rfl rfl rfl⟩
  case h_5 => exact ⟨_, _, rfl, enter_turn hat⟩
  case h_8 => exact restart_turn hat
  case h_9 => exact save_turn hat
  case h_10 => exact load_turn hat
  case h_1 | h_2 | h_6 | h_7 | h_12 => exact ⟨_, _, rfl, .idle rfl ⟨rfl, rfl, rfl⟩⟩
  case h_11 c hquit _ hrestart hsave hload =>
    have hdeed : game.deed? (.char c) = none := by
      unfold deed?
      split <;> simp_all
    have hleaves : leaves (.char c) = false := by
      unfold leaves
      split <;> simp_all
    refine ⟨_, _, rfl, ?_⟩
    rw [← hleaves]
    exact .idle hdeed ⟨rfl, rfl, rfl⟩

/-! ## What the screen shows -/

/-- The screen shows the section that the session is in, as it stands in the document: its title,
options of it in their order, and whether there is none to choose. -/
structure Shows (document : Document) (game : ScreenGame σ) : Prop where
  belongs : game.session.Belongs document
  section_shown : ∃ s spec, game.session.story.section? game.session.current = some s ∧
    document.sections.find? game.session.current = some spec ∧
    game.screen.sectionTitle = s.shownTitle ∧
    (game.screen.menu.offers.map Offer.id).Sublist spec.options.names
  ended : game.screen.ended = true ↔ game.screen.menu.offers = []

variable {document : Document}

/-- As long as the player stays in a section of the document, a screen that shows it goes on
showing it. -/
theorem Shows.stays (h : game.Shows document) {after : ScreenGame σ}
    (hbelongs : after.session.Belongs document)
    (hcurrent : after.session.current = game.session.current)
    (hscreen : game.screen.SameSection after.screen) : after.Shows document := by
  obtain ⟨s, spec, hs, hspec, htitle, hrows⟩ := h.section_shown
  obtain ⟨engine, hbook⟩ := h.belongs.book
  obtain ⟨engine', hbook'⟩ := hbelongs.book
  obtain ⟨s', hs'⟩ := Story.hasSection_iff.mp hbelongs.cursor.known
  obtain ⟨spec₁, hspec₁, heq⟩ := hbook.spec hs
  obtain ⟨spec₂, hspec₂, heq'⟩ := hbook'.spec hs'
  -- before and after, the section is the one that the document has under this id
  rw [hcurrent] at hspec₂ heq'
  obtain rfl := Option.some.inj (hspec.symm.trans hspec₁)
  obtain rfl := Option.some.inj (hspec.symm.trans hspec₂)
  refine ⟨hbelongs, ⟨s', spec, hs', hcurrent ▸ hspec, ?_, hscreen.offers ▸ hrows⟩, ?_⟩
  · rw [hscreen.sectionTitle, htitle, ← Section.shownTitle_ofSpec heq,
      ← Section.shownTitle_ofSpec heq']
  · rw [hscreen.ended, hscreen.offers, h.ended]

/-- A screen that shows the boundary of a session shows the section that the session is in. -/
theorem shows_of_displays {E : Engine σ} {acted final : Session σ} {boundary : Boundary}
    {screen : Screen} (hacted : acted.Belongs document) (hshows : boundary.Shows E acted final)
    (hdisplays : screen.Displays boundary) : Shows document ⟨final, screen⟩ := by
  obtain ⟨⟨view, hview, htitle, -, hoffers⟩, -⟩ := hshows
  obtain ⟨s, hs⟩ := Story.hasSection_iff.mp hacted.cursor.known
  obtain ⟨view', stage, hview', -, htitle', -⟩ := Session.view_known (E := E) hs
  obtain ⟨hok, rfl⟩ := Prod.mk.inj (hview.symm.trans hview')
  obtain rfl := Except.ok.inj hok
  obtain ⟨-, rendered, ho⟩ := Session.offers_of_view hacted.cursor.known hview
  obtain ⟨engine, hbook⟩ := hacted.book
  have hrendered : (Story.ofDocument document engine).SameBook
      { acted.story with stage := rendered } := hbook.trans (.on_stage _ _)
  obtain ⟨spec, hspec, hrows⟩ := hrendered.ids_offers_sublist hs ho
  have hfinal := (Session.Belongs.closed E document).step hacted .view
  rw [Session.step, hview] at hfinal
  refine ⟨hfinal, ⟨s, spec, hs, hspec, ?_, ?_⟩, ?_⟩
  · rw [hdisplays.sectionTitle, ← htitle, htitle']
  · rw [hdisplays.offers, ← hoffers]
    exact hrows
  · rw [hdisplays.ended, hdisplays.offers, Boundary.isEnd, List.isEmpty_iff]

/-- Whatever comes of a deed, its session belongs to the document, unless it was loaded. -/
theorem belongs_performed {session acted : Session σ} (h : session.Belongs document) {deed : Deed}
    {result : Except Fault Unit}
    (hperform : deed.perform host player session s = ((result, acted), s')) :
    acted.Belongs document ∨ result = .ok () ∧ acted.Opened host.engine := by
  have hclosed := Session.Belongs.closed host.engine document
  cases deed with
  | choose optionId =>
    cases hperform
    exact .inl (hclosed.step h (.choose optionId))
  | trigger event args =>
    cases hperform
    exact .inl (hclosed.step h (.trigger event args))
  | restart =>
    have hacted : session.restart host.engine = (result, acted) := congrArg Prod.fst hperform
    have hstep := hclosed.step h .restart
    rw [Session.step, hacted] at hstep
    exact .inl hstep
  | load =>
    rw [LineMode.perform_load] at hperform
    rcases hload : player.load host s with ⟨fault | loaded, t⟩
    · rw [hload] at hperform
      cases hperform
      exact .inl h
    · rw [hload] at hperform
      cases hperform
      exact .inr ⟨rfl, Player.load_opened hload⟩
  | save =>
    cases hperform
    exact .inl h

/-- After a turn the screen shows the section that the session is in, if it did so before. -/
theorem Turn.shows {pressed : Pressed σ} (hturn : Turn host player key game s pressed s')
    (h : game.Shows document) : ∃ document', pressed.2.Shows document' := by
  cases hturn with
  | idle hdeed hscreen => exact ⟨document, h.stays h.belongs rfl hscreen⟩
  | failed hdeed hperform hcurrent =>
    obtain hbelongs | ⟨hok, -⟩ := belongs_performed h.belongs hperform
    · exact ⟨document, h.stays hbelongs hcurrent ⟨rfl, rfl, rfl⟩⟩
    · cases hok
  | saved hdeed hperform hscreen => exact ⟨document, h.stays h.belongs rfl hscreen⟩
  | shown hdeed hperform hshows hdisplays =>
    obtain hbelongs | ⟨-, hopened⟩ := belongs_performed h.belongs hperform
    · exact ⟨document, shows_of_displays hbelongs hshows hdisplays⟩
    · obtain ⟨document', hbelongs⟩ := hopened.exists_belongs
      exact ⟨document', shows_of_displays hbelongs hshows hdisplays⟩

/-- A key that fails leaves the screen as it is, and the player in the section. -/
theorem Turn.kept {pressed : Pressed σ} (hturn : Turn host player key game s pressed s')
    {fault : Fault} (hfault : pressed.1 = .error fault) :
    pressed.2.screen = game.screen ∧ pressed.2.session.current = game.session.current := by
  cases hturn with
  | failed hdeed hperform hcurrent => exact ⟨rfl, hcurrent⟩
  | idle | saved | shown => cases hfault

/-! ## Whatever happens -/

/-- What can happen to a game. -/
inductive Happening where
  | key (key : Key)
  /-- The typewriter makes a step. -/
  | tick
  /-- The status line tells something, such as why a key has failed. -/
  | telling (status : String)

/-- The game after something has happened, with the state of the files. -/
def happen (host : Host (StateM τ) σ) (player : Player) (now : ScreenGame σ × τ) :
    Happening → ScreenGame σ × τ
  | .key key =>
    let pressed := now.1.press host player key now.2
    (pressed.1.2, pressed.2)
  | .tick =>
    ({ now.1 with screen := { now.1.screen with pane := now.1.screen.pane.tick.2 } }, now.2)
  | .telling status => ({ now.1 with screen := now.1.screen.withStatus status }, now.2)

/-- The game after several things have happened. -/
def run (host : Host (StateM τ) σ) (player : Player) (now : ScreenGame σ × τ)
    (happenings : List Happening) : ScreenGame σ × τ :=
  happenings.foldl (happen host player) now

theorem happen_shows (host : Host (StateM τ) σ) (player : Player) {now : ScreenGame σ × τ}
    (h : ∃ document, now.1.Shows document) (happening : Happening) :
    ∃ document, (happen host player now happening).1.Shows document := by
  obtain ⟨document, h⟩ := h
  cases happening with
  | key key =>
    obtain ⟨pressed, s', hpress, hturn⟩ := press_turn host player h.belongs.cursor key now.2
    rw [happen, hpress]
    exact hturn.shows h
  | tick => exact ⟨document, h.stays h.belongs rfl ⟨rfl, rfl, rfl⟩⟩
  | telling status => exact ⟨document, h.stays h.belongs rfl ⟨rfl, rfl, rfl⟩⟩

theorem shows_run (host : Host (StateM τ) σ) (player : Player) {now : ScreenGame σ × τ}
    (h : ∃ document, now.1.Shows document) (happenings : List Happening) :
    ∃ document, (run host player now happenings).1.Shows document := by
  induction happenings generalizing now with
  | nil => exact h
  | cons happening rest ih => exact ih (happen_shows host player h happening)

/-- A game on the full screen begins with its first frame. Whatever has happened to it since, and
whatever the files hold, the screen shows the section that the session is in. The next key is a
turn, and if it fails, the screen stays as it is and the player in the section. -/
theorem run_shows {session : Session σ} (hopened : session.Opened host.engine) (player : Player)
    (s : τ) :
    ∃ boundary viewed, Boundary.ofSession host.engine session = (.ok boundary, viewed) ∧
      ∀ happenings,
        let now := run host player (⟨viewed, .start viewed.story.title boundary⟩, s) happenings
        (∃ document, now.1.Shows document) ∧
          ∀ key files, ∃ pressed files', now.1.press host player key files = (pressed, files') ∧
            Turn host player key now.1 files pressed files' ∧
            ∀ fault, pressed.1 = .error fault →
              pressed.2.screen = now.1.screen ∧
                pressed.2.session.current = now.1.session.current := by
  obtain ⟨document, hbelongs⟩ := hopened.exists_belongs
  obtain ⟨boundary, viewed, hshown, hshows, -⟩ := hbelongs.cursor.ofSession host.engine
  have hstart : Shows document ⟨viewed, .start viewed.story.title boundary⟩ :=
    shows_of_displays hbelongs hshows ⟨rfl, rfl, rfl⟩
  refine ⟨boundary, viewed, hshown, fun happenings => ?_⟩
  have hnow : ∃ document, (run host player
      (⟨viewed, .start viewed.story.title boundary⟩, s) happenings).1.Shows document :=
    shows_run host player ⟨document, hstart⟩ happenings
  refine ⟨hnow, fun key files => ?_⟩
  obtain ⟨document', hnow⟩ := hnow
  obtain ⟨pressed, files', hpress, hturn⟩ :=
    press_turn host player hnow.belongs.cursor key files
  exact ⟨pressed, files', hpress, hturn, fun _ hfault => hturn.kept hfault⟩

/-- In the hall, the door leads nowhere, and there is no state to be loaded. The screen shows the
hall all the same. -/
theorem run_shows_hall :
    ∃ session boundary viewed,
      Session.create Script.engine ⟨Agent.hallOfDoors, .seeded 7⟩ none = .ok session ∧
      Boundary.ofSession Script.engine session = (.ok boundary, viewed) ∧
      let player : Player := ⟨.ofText "/story.yaml" Agent.hallOfDoors, "/state.json", some 7⟩
      let now := run (Disk.host (pure 0)) player
        (⟨viewed, .start viewed.story.title boundary⟩, ⟨.folder [], "/"⟩)
        [.key .enter, .key .enter, .tick, .key (.char 'h')]
      (∃ document, now.1.Shows document) ∧
        ∃ fault pressed disk,
          now.1.press (Disk.host (pure 0)) player (.char 'l') ⟨.folder [], "/"⟩ =
            ((.error fault, pressed), disk) ∧ pressed.screen = now.1.screen := by
  obtain ⟨session, hcreate⟩ := ok_of_isOk
    (x := Session.create Script.engine ⟨Agent.hallOfDoors, .seeded 7⟩ none) (by decide +kernel)
  have hopened : session.Opened (Disk.host (pure 0)).engine := .created hcreate
  obtain ⟨boundary, viewed, hshown, hruns⟩ := run_shows hopened
    ⟨.ofText "/story.yaml" Agent.hallOfDoors, "/state.json", some 7⟩ ⟨.folder [], "/"⟩
  refine ⟨session, boundary, viewed, hcreate, hshown, ?_⟩
  obtain ⟨hshows, hkey⟩ := hruns [.key .enter, .key .enter, .tick, .key (.char 'h')]
  obtain ⟨⟨result, pressed⟩, disk, hpress, -, hkept⟩ := hkey (.char 'l') ⟨.folder [], "/"⟩
  obtain ⟨fault, files, hload⟩ : ∃ fault files,
      Player.load (Disk.host (pure 0)) ⟨.ofText "/story.yaml" Agent.hallOfDoors, "/state.json",
        some 7⟩ ⟨.folder [], "/"⟩ = (.error fault, files) := ⟨_, _, rfl⟩
  have hfails : result = .error fault := by
    rw [press_load, hload] at hpress
    exact (congrArg (fun pair => pair.1.1) hpress).symm
  subst hfails
  exact ⟨hshows, fault, pressed, disk, hpress, (hkept fault rfl).1⟩

end ScreenGame

end Gamebook
