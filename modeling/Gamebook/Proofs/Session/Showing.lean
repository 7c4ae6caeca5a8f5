import Gamebook.Play.Agent
import Gamebook.Proofs.Session.Cursor

/-!
# What a session shows

A session at its cursor can always be shown, and showing it moves nobody. So a step shows what it
has led to unless it is a choice that fails.

* `Boundary.Shows` : a boundary shows a session as it is viewed.
* `Session.AtCursor.ofSession`, `Session.AtCursor.afterChoice` : a session at its cursor is shown.
* `Agent.choosing_fails`, `Agent.choosing_shows`, `Agent.triggering_shows` : the steps.
-/

namespace Gamebook

variable {σ : Type} {E : Engine σ} {session final : Session σ} {boundary : Boundary}

/-- The boundary shows a session as it is viewed, and leaves it like this, in the section shown. -/
structure Boundary.Shows (E : Engine σ) (session final : Session σ) (boundary : Boundary) :
    Prop where
  viewed : ∃ view, session.view E = (.ok view, final) ∧ view.title = boundary.title ∧
    view.text = boundary.text ∧ view.offers = boundary.offers
  sectionId : boundary.sectionId = final.current

namespace Session

theorem AtCursor.view (E : Engine σ) (h : session.AtCursor) :
    ∃ view stage, session.view E =
        (.ok view, { session with story := { session.story with stage } }) ∧
      view.id = session.current ∧ stage.bound = session.story.stage.bound := by
  obtain ⟨s, hs⟩ := Story.hasSection_iff.mp h.known
  obtain ⟨view, stage, hview, hid, -, -, hlooks⟩ := view_known (E := E) hs
  exact ⟨view, stage, hview, hid.trans (h.keyed _ s hs), hlooks.bound⟩

/-- A session at its cursor is shown, and stays there. -/
theorem AtCursor.ofSession (E : Engine σ) (h : session.AtCursor) :
    ∃ boundary final, Boundary.ofSession E session = (.ok boundary, final) ∧
      boundary.Shows E session final ∧ final.AtCursor ∧ final.current = session.current ∧
      final.source = session.source := by
  obtain ⟨view, stage, hview, hid, hbound⟩ := h.view E
  refine ⟨.ofView view, _, ?_, ⟨⟨view, hview, rfl, rfl, rfl⟩, hid⟩, h.on_stage hbound, rfl, rfl⟩
  rw [Boundary.ofSession, hview]

/-- After a choice it is shown with what the choice has left to say. -/
theorem AtCursor.afterChoice (E : Engine σ) (h : session.AtCursor) (followed : Followed) :
    ∃ boundary final, Boundary.afterChoice E followed session = (.ok boundary, final) ∧
      boundary.Shows E session final ∧ final.AtCursor ∧ final.current = session.current ∧
      final.source = session.source ∧
      ∀ fault, followed.navigation = .blocked fault → boundary.blocked = some fault.message := by
  obtain ⟨shown, final, hshown, hshows, hat, hcurrent, hsource⟩ := h.ofSession E
  rw [Boundary.afterChoice, hshown]
  refine ⟨_, final, rfl, ⟨hshows.viewed, hshows.sectionId⟩, hat, hcurrent, hsource, ?_⟩
  intro fault hblocked
  simp only [hblocked]

end Session

namespace Agent

/-- A choice that fails shows nothing. -/
theorem choosing_fails {optionId : String} {fault : Fault} {chosen : Session σ}
    (h : session.choose E optionId = (.error fault, chosen)) :
    choosing E optionId session = (.error fault, chosen) := by
  rw [choosing, h]

/-- A choice that succeeds shows what it has led to. -/
theorem choosing_shows (hat : session.AtCursor) {optionId : String} {followed : Followed}
    {chosen : Session σ} (h : session.choose E optionId = (.ok followed, chosen)) :
    ∃ boundary final, choosing E optionId session = (.ok boundary, final) ∧
      boundary.Shows E chosen final ∧
      ∀ fault, followed.navigation = .blocked fault → boundary.blocked = some fault.message := by
  have hchosen : chosen.AtCursor := by
    have hstep := (Session.AtCursor.closed E).step hat (.choose optionId)
    rw [Session.step, h] at hstep
    exact hstep
  obtain ⟨boundary, final, hshown, hshows, -, -, -, hblocked⟩ := hchosen.afterChoice E followed
  refine ⟨boundary, final, ?_, hshows, hblocked⟩
  rw [choosing, h]
  exact hshown

/-- An event shows what it has left behind. -/
theorem triggering_shows (hat : session.AtCursor) (eventId : String) (args : List Value) :
    ∃ boundary final, triggering E eventId args session = (.ok boundary, final) ∧
      boundary.Shows E (session.trigger E eventId args).2 final := by
  have hstep := (Session.AtCursor.closed E).step hat (.trigger eventId args)
  obtain ⟨shown, final, hshown, hshows, -⟩ := hstep.ofSession E
  rw [Session.step] at hshown hshows
  refine ⟨{ shown with message := some (session.trigger E eventId args).1 }, final, ?_,
    ⟨hshows.viewed, hshows.sectionId⟩⟩
  rw [triggering, hshown]

end Agent

end Gamebook
