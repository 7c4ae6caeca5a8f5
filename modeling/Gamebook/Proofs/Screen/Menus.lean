import Gamebook.Proofs.Screen.Changes
import Gamebook.Screen.Frame

/-!
# The selected option is in view

Keys move the selection and the menu's window separately. Whatever is pressed, the selected option
stays in the window, and the window stays within the options; so a frame that shows the menu marks
one row, that of the option which the enter key chooses.

* `Menu.InView` : where selection and window stand.
* `Screen.Change.inView` : no change of a screen moves the selection out of view.
* `Frame.Marks` : a frame marks the row of one option and no other.
* `ScreenGame.selected_in_view` : the selected option is in view, marked, and chosen.
-/

namespace Gamebook

/-! ## The window -/

namespace Menu

/-- The selected option is in the window. -/
structure InView (menu : Menu) : Prop where
  listed : menu.offers ≠ [] → menu.selected < menu.offers.length
  not_above : menu.scroll ≤ menu.selected
  not_below : menu.selected < menu.scroll + windowRows
  /-- The window is at the top, or it does not reach beyond the last option. -/
  within : menu.scroll = 0 ∨ menu.scroll + windowRows ≤ menu.offers.length
  /-- Without options nothing has moved. -/
  resting : menu.offers = [] → menu.selected = 0 ∧ menu.scroll = 0

variable {menu : Menu}

theorem inView_ofOffers (offers : List Offer) : (ofOffers offers).InView where
  listed h := List.length_pos_iff.mpr h
  not_above := Nat.le_refl 0
  not_below := Nat.succ_pos 4
  within := .inl rfl
  resting _ := ⟨rfl, rfl⟩

@[simp] theorem offers_up (menu : Menu) : menu.up.offers = menu.offers := rfl

@[simp] theorem offers_down (menu : Menu) : menu.down.offers = menu.offers := rfl

theorem selected_up (menu : Menu) : menu.up.selected = menu.selected - 1 := rfl

theorem selected_down (menu : Menu) :
    menu.down.selected = min (menu.selected + 1) (menu.offers.length - 1) := rfl

/-- The window moves up no further than to the selected option. -/
theorem scroll_up (menu : Menu) : menu.up.scroll = min menu.scroll menu.up.selected := by
  rw [selected_up, up]
  dsimp only
  split <;> omega

/-- The window moves down until the selected option is in its last row, and no further. In a list
that fits into the window this is never necessary. -/
theorem scroll_down (menu : Menu) :
    menu.down.scroll = max menu.scroll (menu.down.selected + 1 - windowRows) := by
  have hlast : menu.down.selected ≤ menu.offers.length - 1 := Nat.min_le_right _ _
  change (if windowRows < menu.offers.length ∧ menu.scroll + windowRows ≤ menu.down.selected
    then menu.down.selected - windowRows + 1 else menu.scroll) = _
  unfold windowRows
  by_cases houtside : 5 < menu.offers.length ∧ menu.scroll + 5 ≤ menu.down.selected
  · rw [if_pos houtside]
    omega
  · rw [if_neg houtside]
    omega

theorem InView.up (h : menu.InView) (hoffers : menu.offers ≠ []) : menu.up.InView := by
  have hlisted := h.listed hoffers
  obtain ⟨-, habove, hbelow, hwithin, -⟩ := h
  unfold windowRows at hbelow hwithin
  refine ⟨fun _ => ?_, ?_, ?_, ?_, fun hnone => absurd hnone hoffers⟩
  all_goals
    simp only [scroll_up, selected_up, offers_up, windowRows]
    omega

theorem InView.down (h : menu.InView) (hoffers : menu.offers ≠ []) : menu.down.InView := by
  have hlisted := h.listed hoffers
  obtain ⟨-, habove, hbelow, hwithin, -⟩ := h
  unfold windowRows at hbelow hwithin
  refine ⟨fun _ => ?_, ?_, ?_, ?_, fun hnone => absurd hnone hoffers⟩
  all_goals
    simp only [scroll_down, selected_down, offers_down, windowRows]
    omega

/-- The selected option of a menu that has any. -/
theorem InView.selected? (h : menu.InView) (hoffers : menu.offers ≠ []) :
    ∃ offer, menu.selected? = some offer :=
  ⟨_, List.getElem?_eq_getElem (h.listed hoffers)⟩

end Menu

/-- No change of a screen moves the selection out of view. -/
theorem Screen.Change.inView {before after : Screen} (h : before.Change after)
    (hbefore : before.menu.InView) : after.menu.InView := by
  cases h with
  | told _ hmenu | ticked _ hmenu | skipped _ hmenu => rwa [hmenu]
  | moved hchange hoffers _ hmenu =>
    rw [hmenu]
    obtain rfl | rfl := hchange
    · exact hbefore.up hoffers
    · exact hbefore.down hoffers
  | appended boundary _ hmenu | replaced boundary _ hmenu =>
    rw [hmenu]
    exact Menu.inView_ofOffers _

/-! ## The rows of the menu -/

namespace Frame

/-- The row is marked as that of the selected option. -/
def isMarked (row : String) : Bool := Text.startsWith "> " row

/-- The rows of the menu's window. -/
def menuRows (width : Nat) (screen : Screen) : List String :=
  (List.range Menu.windowRows).map (menuRow width screen)

/-- A frame marks the row of an option among those of the menu, and no other. -/
structure Marks (width height : Nat) (stateFile : String) (screen : Screen) (offer : Offer) :
    Prop where
  /-- The rows of the menu are part of the frame. -/
  framed : menuRows width screen <:+: rows width height stateFile screen
  marked : ∃ row < Menu.windowRows,
    menuRow width screen row = "> " ++ toString (screen.menu.selected + 1) ++ ". "
      ++ cut (max (contentWidth width - 6) 8) offer.text ∧
    ∀ other < Menu.windowRows, isMarked (menuRow width screen other) = true ↔ other = row

variable {width : Nat} {screen : Screen}

theorem menuRow_some (hshown : menuShown screen = true) {row : Nat} {offer : Offer}
    (hoffer : screen.menu.offers[screen.menu.scroll + row]? = some offer) :
    menuRow width screen row =
      (if screen.menu.scroll + row = screen.menu.selected then "> " else "  ")
        ++ toString (screen.menu.scroll + row + 1) ++ ". "
        ++ cut (max (contentWidth width - 6) 8) offer.text := by
  simp only [menuRow, hoffer, hshown, if_true]

theorem isMarked_selected (text : String) : isMarked ("> " ++ text) = true := by
  rw [isMarked, Text.startsWith, Text.afterStart?_append]
  rfl

theorem isMarked_other (text : String) : isMarked ("  " ++ text) = false := by
  rw [isMarked, Text.startsWith, Text.afterStart?, String.toList_append]
  rfl

theorem offers_of_menuShown (hshown : menuShown screen = true) : screen.menu.offers ≠ [] := by
  simp only [menuShown, Bool.and_eq_true, Bool.not_eq_true', List.isEmpty_eq_false_iff] at hshown
  exact hshown.2

/-- Of the rows of a menu that is shown, that of the selected option is marked. -/
theorem isMarked_menuRow (hshown : menuShown screen = true) (hview : screen.menu.InView)
    (row : Nat) : isMarked (menuRow width screen row) = true ↔
      screen.menu.scroll + row = screen.menu.selected := by
  cases hoffer : screen.menu.offers[screen.menu.scroll + row]? with
  | none =>
    have hlisted := hview.listed (offers_of_menuShown hshown)
    have hbeyond := List.getElem?_eq_none_iff.mp hoffer
    have hblank : menuRow width screen row = "  " ++ " " := by
      simp only [menuRow, hoffer]
      rfl
    rw [hblank, isMarked_other]
    constructor
    · rintro ⟨⟩
    · intro h
      omega
  | some offer =>
    rw [menuRow_some hshown hoffer, String.append_assoc, String.append_assoc]
    split
    · next heq => simp only [isMarked_selected, heq]
    · next hne => simp only [isMarked_other, hne, Bool.false_eq_true]

theorem menuRows_infix_rows (width height : Nat) (stateFile : String) (screen : Screen) :
    menuRows width screen <:+: rows width height stateFile screen := by
  unfold rows
  iterate 4 refine List.IsInfix.trans ?_ (List.prefix_append _ _).isInfix
  exact (List.suffix_append _ _).isInfix

/-- A frame that shows the menu marks the selected option. -/
theorem marks_selected (hshown : menuShown screen = true) (hview : screen.menu.InView)
    {offer : Offer} (hselected : screen.menu.selected? = some offer) (width height : Nat)
    (stateFile : String) : Marks width height stateFile screen offer := by
  obtain ⟨row, hrow⟩ : ∃ row, screen.menu.scroll + row = screen.menu.selected :=
    ⟨_, Nat.add_sub_of_le hview.not_above⟩
  have hbelow := hview.not_below
  have hoffer : screen.menu.offers[screen.menu.scroll + row]? = some offer := by
    rw [hrow]
    exact hselected
  refine ⟨menuRows_infix_rows .., row, by omega, ?_, fun other _ => ?_⟩
  · rw [menuRow_some hshown hoffer, if_pos hrow, hrow]
  · rw [isMarked_menuRow hshown hview]
    omega

end Frame

/-! ## The selected option -/

namespace ScreenGame

variable {σ τ : Type} {host : Host (StateM τ) σ} {player : Player}

/-- What comes of choosing an option by its id. -/
def choosing (E : Engine σ) (optionId : String) (game : ScreenGame σ) : Pressed σ :=
  match game.session.choose E optionId with
  | (.error fault, session) => (.error fault, { game with session })
  | (.ok followed, session) =>
    game.showing (Boundary.afterChoice E followed session) fun boundary screen =>
      (screen.append boundary).withStatus ("chose " ++ optionId)

theorem enter_selected {game : ScreenGame σ} (hshown : Frame.menuShown game.screen = true)
    {offer : Offer} (hselected : game.screen.menu.selected? = some offer) (E : Engine σ) :
    game.enter E = game.choosing E offer.id := by
  have hbusy : game.screen.pane.isBusy = false := by
    simp only [Frame.menuShown, Bool.and_eq_true, Bool.not_eq_true'] at hshown
    exact hshown.1
  simp only [enter, hbusy, Bool.false_eq_true, if_false, hselected]
  rfl

/-- On every screen that a game comes to, the selected option is in the window. Whenever the menu is
shown, frames of all sizes mark the row of one option and no other, and this is the option that the
enter key chooses. -/
theorem selected_in_view {now : ScreenGame σ × τ} (h : Reached host player now) :
    now.1.screen.menu.InView ∧
      (Frame.menuShown now.1.screen = true →
        ∃ offer, now.1.screen.menu.selected? = some offer ∧
          (∀ width height stateFile,
            Frame.Marks width height stateFile now.1.screen offer) ∧
          now.1.press host player .enter now.2 =
            (now.1.choosing host.engine offer.id, now.2)) := by
  have hview : now.1.screen.menu.InView :=
    h.keeps (P := fun _ menu => menu.InView) (Menu.inView_ofOffers [])
      fun before after hbefore hchange => hchange.inView hbefore
  refine ⟨hview, fun hshown => ?_⟩
  obtain ⟨offer, hselected⟩ := hview.selected? (Frame.offers_of_menuShown hshown)
  refine ⟨offer, hselected, Frame.marks_selected hshown hview hselected, ?_⟩
  change (now.1.enter host.engine, now.2) = _
  rw [enter_selected hshown hselected]

/-- A crossing with seven roads. -/
def crossing : Source Script.Interpreter :=
  ⟨"sections: \x7bcrossing: \x7boptions: \x7bnorth: [North, self], east: [East, self], " ++
    "south: [South, self], west: [West, self], up: [Up, self], down: [Down, self], " ++
    "back: [Back, self]\x7d\x7d\x7d", .seeded 1⟩

/-- A player of the crossing. -/
def walker : Player := ⟨.ofText "/story.yaml" crossing.text, "/state.json", some 1⟩

/-- A game at the crossing after six keys down and two up. -/
def downAndUp (game : ScreenGame Script.Interpreter) : ScreenGame Script.Interpreter × Disk :=
  run (Disk.host (pure 0)) walker (game, ⟨.folder [], "/"⟩)
    (.key .enter :: (List.replicate 6 (.key .down) ++ List.replicate 2 (.key .up)))

/-- Then the fifth road is selected, in the third row of the window. -/
theorem selected_in_view_crossing :
    ∃ game offer, opening? Script.engine crossing = some game ∧
      (downAndUp game).1.screen.menu.InView ∧ (downAndUp game).1.screen.menu.scroll = 2 ∧
      (downAndUp game).1.screen.menu.selected? = some offer ∧ offer.id = "up" ∧
      Frame.Marks 80 24 walker.stateFile (downAndUp game).1.screen offer ∧
      (downAndUp game).1.press (Disk.host (pure 0)) walker .enter (downAndUp game).2 =
        ((downAndUp game).1.choosing Script.engine "up", (downAndUp game).2) := by
  have htest : ((opening? Script.engine crossing).any fun game =>
      Frame.menuShown (downAndUp game).1.screen &&
      decide ((downAndUp game).1.screen.menu.scroll = 2) &&
      (downAndUp game).1.screen.menu.selected?.any fun offer => offer.id == "up") = true := by
    decide +kernel
  obtain ⟨game, hgame, htest⟩ := (Option.any_eq_true ..).mp htest
  simp only [Bool.and_eq_true, decide_eq_true_eq, Option.any_eq_true, beq_iff_eq] at htest
  obtain ⟨⟨hshown, hscroll⟩, offer, hoffer, hid⟩ := htest
  obtain ⟨hview, hselects⟩ := selected_in_view
    (reached_run (reached_opening (Disk.host (pure 0)) walker hgame ⟨.folder [], "/"⟩)
      (.key .enter :: (List.replicate 6 (.key .down) ++ List.replicate 2 (.key .up))))
  obtain ⟨offer', hoffer', hmarks, hpress⟩ := hselects hshown
  obtain rfl : offer' = offer := Option.some.inj (hoffer'.symm.trans hoffer)
  rw [hid] at hpress
  exact ⟨game, offer', hgame, hview, hscroll, hoffer, hid, hmarks 80 24 _, hpress⟩

end ScreenGame

end Gamebook
