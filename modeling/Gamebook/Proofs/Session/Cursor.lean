import Gamebook.Boundary
import Gamebook.Proofs.Saving
import Gamebook.Proofs.Session.Choosing

/-!
# The cursor of a session

A session is at its cursor when the current section exists in the story and is the one that is
bound. Creating and resuming put a session there, and no step takes it away, whether it succeeds or
not and whatever scripts do. So a session can always be shown.

* `Session.Step`, `Session.run` : what can be done with a session, in any order.
* `Session.Lasting.step`, `Session.Closed.step` : what the parts of a step keep, every step keeps.
* `Session.atCursor_resume` : a session that goes on from a save is at its cursor.
* `Session.run_atCursor` : every session can be shown, after every run.
-/

namespace Gamebook

variable {σ : Type} {E : Engine σ}

namespace Session

/-! ## Steps -/

/-- What can be done with a session. -/
inductive Step where
  | view
  | choose (optionId : String)
  | goTo (sectionId : String)
  | restart
  | trigger (eventId : String) (args : List Value)
  | save

/-- The session after a step, whether the step has succeeded or not. -/
def step (E : Engine σ) (session : Session σ) : Step → Session σ
  | .view => (session.view E).2
  | .choose optionId => (session.choose E optionId).2
  | .goTo sectionId => (session.goTo E sectionId).2
  | .restart => (session.restart E).2
  | .trigger eventId args => (session.trigger E eventId args).2
  | .save => session

/-- The session after steps. -/
def run (E : Engine σ) (session : Session σ) (steps : List Step) : Session σ :=
  steps.foldl (step E) session

/-- The session was created, or goes on from a save. -/
inductive Opened (E : Engine σ) : Session σ → Prop where
  | created {source : Source σ} {start : Option String} {session : Session σ}
    (h : create E source start = .ok session) : Opened E session
  | resumed {source : Source σ} {save : Save} {session : Session σ}
    (h : resume E source save = .ok session) : Opened E session

/-! ## What each step does -/

variable {session : Session σ} {s : Section}

theorem view_known (hs : session.story.section? session.current = some s) :
    ∃ view stage, session.view E = (.ok view,
        { session with story := { session.story with stage } }) ∧
      view.id = s.id ∧ view.title = s.shownTitle ∧ view.visits = s.visits ∧
      Stage.Looks E session.story.stage stage := by
  obtain ⟨text, rendered, htext, hlooks⟩ := Story.text_known (E := E) hs
  have hs' : ({ session.story with stage := rendered } : Story σ).section? session.current =
      some s := hs
  obtain ⟨offers, stage, hoffers, hlooks'⟩ := Story.offers_known (E := E) hs'
  have hs'' : ({ session.story with stage } : Story σ).section? session.current = some s := hs
  refine ⟨⟨s.id, s.shownTitle, text, s.visits, offers⟩, stage, ?_, rfl, rfl, rfl,
    hlooks.trans hlooks'⟩
  simp only [view, onStory, htext, hoffers, hs'']

theorem goTo_known {id : String} (h : session.story.section? id = some s) :
    session.goTo E id =
      (.ok (), { session with story := (session.story.visit E id).2, current := id }) := by
  simp only [goTo, Story.visit_known h]

theorem goTo_unknown {id : String} (h : session.story.section? id = none) :
    session.goTo E id = (.error (.sectionNotFound id), session) := by
  simp only [goTo, Story.visit_unknown h]

/-! ## Starting over -/

/-- The step starts the story over. -/
def Restarts (E : Engine σ) (session : Session σ) : Step → Prop
  | .restart => (session.restart E).1 = .ok ()
  | .choose optionId => ∃ followed sectionId, (session.choose E optionId).1 = .ok followed ∧
      followed.navigation = .restarted sectionId
  | .view | .goTo _ | .trigger _ _ | .save => False

theorem follow_restarts {target : Target} {sectionId : String}
    (h : (session.follow E target).1 = .ok (.restarted sectionId)) :
    ∃ story, session.source.later.load E = .ok story ∧
      (session.follow E target).2 = atStart E session.source.later story := by
  cases target with
  | restart =>
    rw [follow_restart] at h ⊢
    cases hload : session.source.later.load E with
    | ok story => exact ⟨story, rfl, rfl⟩
    | error fault =>
      rw [hload] at h
      cases h
  | goTo id =>
    cases hs : session.story.section? id with
    | some s =>
      rw [follow_known hs] at h
      cases h
    | none =>
      rw [follow_unknown hs] at h
      cases h

/-- Choosing refuses, having worked out what is on offer, or the option is there and on offer. -/
theorem choose_refused_or_offered (E : Engine σ)
    (hs : session.story.section? session.current = some s) (optionId : String) :
    (∃ fault, session.choose E optionId = (.error fault,
      { session with story := { session.story with stage := session.stageOffered E } })) ∨
    ∃ choice, s.choices.find? optionId = some choice ∧ optionId ∈ session.offeredIds E := by
  cases hc : s.choices.find? optionId with
  | none => exact .inl ⟨_, choose_unknown hs (by rw [Fields.has_eq_isSome, hc]; rfl)⟩
  | some choice =>
    by_cases ho : optionId ∈ session.offeredIds E
    · exact .inr ⟨choice, rfl, ho⟩
    · exact .inl ⟨_, choose_withheld hs (by rw [Fields.has_eq_isSome, hc]; rfl) ho⟩

/-- Where choosing an offered option leads is where following its target leads. -/
theorem choose_followed (hs : session.story.section? session.current = some s)
    {optionId : String} {choice : Choice} (hc : s.choices.find? optionId = some choice)
    (ho : optionId ∈ session.offeredIds E) {outcome : Outcome} {stage : Stage σ}
    (hx : choice.execute E (session.stageOffered E) = (outcome, stage)) :
    (session.choose E optionId).2 =
        ((session.executed optionId stage).follow E outcome.target).2 ∧
      ∀ sectionId, (∃ followed, (session.choose E optionId).1 = .ok followed ∧
          followed.navigation = .restarted sectionId) ↔
        ((session.executed optionId stage).follow E outcome.target).1 =
          .ok (.restarted sectionId) := by
  rw [choose_offered hs hc ho hx]
  split
  · next heq => simp [heq]
  · next heq => simp [heq]

/-- A step that starts the story over leaves the session at the start of its source. -/
theorem step_restarts (hknown : session.story.hasSection session.current = true) {step : Step}
    (h : session.Restarts E step) :
    ∃ story, session.source.later.load E = .ok story ∧
      session.step E step = atStart E session.source.later story := by
  cases step with
  | restart =>
    rw [Restarts, restart_eq] at h
    rw [Session.step, restart_eq]
    cases hload : session.source.later.load E with
    | ok story => exact ⟨story, rfl, rfl⟩
    | error fault =>
      rw [hload] at h
      cases h
  | choose optionId =>
    obtain ⟨followed, sectionId, hok, hnavigation⟩ := h
    obtain ⟨s, hs⟩ := Story.hasSection_iff.mp hknown
    obtain ⟨fault, heq⟩ | ⟨choice, hc, ho⟩ := choose_refused_or_offered E hs optionId
    · rw [heq] at hok
      cases hok
    · obtain ⟨outcome, stage, hx⟩ :
          ∃ outcome stage, choice.execute E (session.stageOffered E) = (outcome, stage) :=
        ⟨_, _, rfl⟩
      obtain ⟨hsession, hrestarted⟩ := choose_followed hs hc ho hx
      rw [Session.step, hsession]
      exact follow_restarts ((hrestarted sectionId).mp ⟨followed, hok, hnavigation⟩)
  | view | goTo _ | trigger _ _ | save => cases h

/-! ## What steps keep -/

/-- A property of sessions in a section that exists, which what scripts do to the stage, executing
an option, and entering a section keep. -/
structure Lasting (E : Engine σ) (P : Session σ → Prop) : Prop where
  known {session : Session σ} (h : P session) : session.story.hasSection session.current = true
  on_stage {session : Session σ} (h : P session) {stage : Stage σ}
    (hbound : stage.bound = session.story.stage.bound) :
    P { session with story := { session.story with stage } }
  executed {session : Session σ} (h : P session) {s : Section} {optionId : String}
    {choice : Choice} {outcome : Outcome} {stage : Stage σ}
    (hs : session.story.section? session.current = some s)
    (hc : s.choices.find? optionId = some choice)
    (hx : choice.execute E (session.stageOffered E) = (outcome, stage)) :
    P (session.executed optionId stage)
  entered {session : Session σ} (h : P session) {id : String} {s : Section}
    (hs : session.story.section? id = some s) :
    P { session with story := (session.story.visit E id).2, current := id }

/-- A property that starting over keeps as well. -/
structure Closed (E : Engine σ) (P : Session σ → Prop) : Prop extends Lasting E P where
  restarted {session : Session σ} (h : P session) {story : Story σ}
    (hload : session.source.later.load E = .ok story) : P (atStart E session.source.later story)

variable {P : Session σ → Prop}

namespace Lasting

theorem follow (hP : Lasting E P) (h : P session) {target : Target}
    (hkeep : ∀ sectionId, (session.follow E target).1 ≠ .ok (.restarted sectionId)) :
    P (session.follow E target).2 := by
  cases target with
  | restart =>
    rw [follow_restart] at hkeep ⊢
    cases hload : session.source.later.load E with
    | ok story =>
      rw [hload] at hkeep
      exact absurd rfl (hkeep story.startId)
    | error fault => exact h
  | goTo id =>
    cases hs : session.story.section? id with
    | some s =>
      rw [follow_known hs]
      exact hP.entered h hs
    | none =>
      rw [follow_unknown hs]
      exact h

theorem choose (hP : Lasting E P) (h : P session) {optionId : String}
    (hkeep : ¬ session.Restarts E (.choose optionId)) : P (session.choose E optionId).2 := by
  obtain ⟨s, hs⟩ := Story.hasSection_iff.mp (hP.known h)
  obtain ⟨fault, heq⟩ | ⟨choice, hc, ho⟩ := choose_refused_or_offered E hs optionId
  · obtain ⟨offers, -, -, hlooks⟩ := offers_current (E := E) hs
    rw [heq]
    exact hP.on_stage h hlooks.bound
  · obtain ⟨outcome, stage, hx⟩ :
        ∃ outcome stage, choice.execute E (session.stageOffered E) = (outcome, stage) :=
      ⟨_, _, rfl⟩
    obtain ⟨hsession, hrestarted⟩ := choose_followed hs hc ho hx
    rw [hsession]
    refine hP.follow (hP.executed h hs hc hx) fun sectionId hfollow => hkeep ?_
    obtain ⟨followed, hok, hnavigation⟩ := (hrestarted sectionId).mpr hfollow
    exact ⟨followed, sectionId, hok, hnavigation⟩

/-- What the parts of a step keep, every step keeps that does not start the story over, whether it
succeeds or not. -/
theorem step (hP : Lasting E P) (h : P session) {step : Step} (hkeep : ¬ session.Restarts E step) :
    P (session.step E step) := by
  cases step with
  | view =>
    obtain ⟨s, hs⟩ := Story.hasSection_iff.mp (hP.known h)
    obtain ⟨view, stage, heq, -, -, -, hlooks⟩ := view_known (E := E) hs
    rw [Session.step, heq]
    exact hP.on_stage h hlooks.bound
  | choose optionId => exact hP.choose h hkeep
  | goTo id =>
    rw [Session.step]
    cases hs : session.story.section? id with
    | some s =>
      rw [goTo_known hs]
      exact hP.entered h hs
    | none =>
      rw [goTo_unknown hs]
      exact h
  | restart =>
    rw [Restarts, restart_eq] at hkeep
    rw [Session.step, restart_eq]
    cases hload : session.source.later.load E with
    | ok story =>
      rw [hload] at hkeep
      exact absurd rfl hkeep
    | error fault => exact h
  | trigger eventId args =>
    obtain ⟨message, stage, heq, hbound⟩ := Story.trigger_eq E eventId args session.story
    rw [Session.step, trigger, onStory, heq]
    exact hP.on_stage h hbound
  | save => exact h

end Lasting

namespace Closed

/-- What the parts of a step keep, every step keeps, whether it succeeds or not. -/
theorem step (hP : Closed E P) (h : P session) (step : Step) : P (session.step E step) := by
  by_cases hkeep : session.Restarts E step
  · obtain ⟨story, hload, heq⟩ := step_restarts (hP.known h) hkeep
    rw [heq]
    exact hP.restarted h hload
  · exact hP.toLasting.step h hkeep

theorem run (hP : Closed E P) (h : P session) (steps : List Step) : P (session.run E steps) := by
  induction steps generalizing session with
  | nil => exact h
  | cons step rest ih => exact ih (hP.step h step)

end Closed

/-! ## The cursor -/

/-- The current section exists and is bound, and every section stands under its own id. -/
structure AtCursor (session : Session σ) : Prop where
  keyed : session.story.Keyed
  known : session.story.hasSection session.current = true
  bound : session.story.stage.bound = some session.current

/-- A section that was just entered is where the cursor is. -/
theorem atCursor_entered {story : Story σ} {id : String} (hk : story.Keyed)
    (hs : story.section? id = some s) (source : Source σ) :
    AtCursor ⟨source, (story.visit E id).2, id⟩ where
  keyed := (Story.sameBook_visit E id story).keyed hk
  known := by
    obtain ⟨s', hs', -⟩ := (Story.sameBook_visit E id story).known hs
    exact Story.hasSection_iff.mpr ⟨s', hs'⟩
  bound := Story.bound_visit hk hs

theorem atCursor_atStart {source : Source σ} {story : Story σ}
    (h : source.load E = .ok story) : (atStart E source story).AtCursor := by
  have hfresh := Source.fresh_of_load h
  obtain ⟨s, hs⟩ := Story.hasSection_iff.mp hfresh.start
  exact atCursor_entered hfresh.keyed hs source

namespace AtCursor

/-- What changes neither the book nor the cursor nor the bound section keeps a session there. -/
theorem of_sameBook {before after : Session σ} (h : before.AtCursor)
    (hbook : before.story.SameBook after.story) (hcurrent : after.current = before.current)
    (hbound : after.story.stage.bound = before.story.stage.bound) : after.AtCursor where
  keyed := hbook.keyed h.keyed
  known := by
    obtain ⟨s, hs⟩ := Story.hasSection_iff.mp h.known
    obtain ⟨s', hs', -⟩ := hbook.known hs
    exact hcurrent ▸ Story.hasSection_iff.mpr ⟨s', hs'⟩
  bound := by rw [hbound, hcurrent, h.bound]

theorem on_stage (h : session.AtCursor) {stage : Stage σ}
    (hbound : stage.bound = session.story.stage.bound) :
    AtCursor { session with story := { session.story with stage } } :=
  h.of_sameBook (.on_stage session.story stage) rfl hbound

/-- Every step keeps the cursor. -/
theorem closed (E : Engine σ) : Closed E AtCursor where
  known h := h.known
  on_stage h _ hbound := h.on_stage hbound
  executed h _ _ _ _ _ hs hc hx :=
    h.of_sameBook (stays_executed hs hc hx).book rfl (stays_executed hs hc hx).bound
  entered h _ _ hs := atCursor_entered h.keyed hs _
  restarted _ _ hload := atCursor_atStart hload

end AtCursor

/-! ## Beginning and going on -/

theorem atCursor_create {source : Source σ} {start : Option String}
    (h : create E source start = .ok session) : session.AtCursor := by
  obtain ⟨story, s, hload, hs, rfl⟩ := create_ok h
  exact atCursor_entered (Source.fresh_of_load hload).keyed hs source

/-- Whatever a save holds, a session that goes on from it is where it says. -/
theorem atCursor_resume {source : Source σ} {save : Save}
    (h : resume E source save = .ok session) : session.AtCursor := by
  obtain ⟨-, story, entered, written, hload, hentered, hwritten, rfl⟩ := resume_ok h
  have hkeyed := (Source.fresh_of_load hload).keyed
  have hat : AtCursor ⟨source, entered, save.sectionId⟩ := by
    obtain ⟨-, s, hs, rfl⟩ | ⟨-, kept, s, hkept, hs, rfl⟩ := restoreSections_ok hentered
    · exact atCursor_entered hkeyed hs source
    · have hk : kept.Keyed := (Story.sameBook_restore hkept).keyed hkeyed
      exact ⟨hk, Story.hasSection_iff.mpr ⟨s, hs⟩, by rw [Section.bound_rebind, hk _ s hs]⟩
  obtain ⟨result, stage, hput, hbound⟩ := Story.putBack_eq E save.globals entered
  obtain ⟨rfl, rfl⟩ := Prod.mk.inj (hput.symm.trans hwritten)
  obtain ⟨stage', hdice, hbound'⟩ := restoreDice_eq E save { entered with stage }
  rw [hdice]
  exact hat.on_stage (hbound'.trans hbound)

theorem Opened.atCursor (h : Opened E session) : session.AtCursor := by
  cases h with
  | created h => exact atCursor_create h
  | resumed h => exact atCursor_resume h

/-- Every session is at its cursor after every run, and can be shown there. -/
theorem run_atCursor (h : Opened E session) (steps : List Step) :
    (session.run E steps).AtCursor ∧
      (∃ view, ((session.run E steps).view E).1 = .ok view ∧
        view.id = (session.run E steps).current) ∧
      ∃ boundary, (Boundary.ofSession E (session.run E steps)).1 = .ok boundary ∧
        boundary.sectionId = (session.run E steps).current := by
  have hat := (AtCursor.closed E).run h.atCursor steps
  obtain ⟨s, hs⟩ := Story.hasSection_iff.mp hat.known
  obtain ⟨view, stage, heq, hid, -⟩ := view_known (E := E) hs
  have hid' : view.id = (session.run E steps).current := hid.trans (hat.keyed _ s hs)
  refine ⟨hat, ⟨view, by rw [heq], hid'⟩, Boundary.ofView view, ?_, hid'⟩
  rw [Boundary.ofSession, heq]

/-- A house with one room. -/
def oneRoom : Source Script.Interpreter := ⟨"sections: \x7bhall: \x7b\x7d\x7d", .seeded 1⟩

/-- A player in the only room who tries a door that is not there, looks around, and starts over. -/
theorem run_atCursor_oneRoom :
    ∃ session, create Script.engine oneRoom none = .ok session ∧
      (session.run Script.engine [.goTo "attic", .view, .restart]).AtCursor := by
  have hok : (create Script.engine oneRoom none).isOk = true := by decide +kernel
  obtain ⟨session, hcreate⟩ := ok_of_isOk hok
  exact ⟨session, hcreate, (run_atCursor (.created hcreate) _).1⟩

end Session

end Gamebook
