import Gamebook.Proofs.Saving

/-!
# Operations of a story

What can be done with a loaded story, in any order and with any ids. Each operation changes the
progress in sections and the stage; the book stays. The stage changes in few ways: expressions are
evaluated, statements are run, functions are called, a section is bound, the redirect is taken.

* `Story.Operation`, `Story.perform`, `Story.play` : the operations, one and many.
* `Stage.runCode`, `Stage.effected` : the parts of entering a section and of executing an option.
* `Choice.redirected_iff` : which options are redirected.
* `Story.Performed`, `Story.performed` : all that an operation does.
* `Story.sameBook_play` : the book stays.
-/

namespace Gamebook

variable {σ : Type} {E : Engine σ}

namespace Stage

/-! ## Parts of operations -/

/-- Runs statements, if there are any. -/
def runCode (E : Engine σ) (code : Option String) (st : Stage σ) : Stage σ :=
  match code with
  | some code => (run E code st).2
  | none => st

/-- The stage after the effect of an option and the procedure that runs after every option, when
the redirect is still to be taken. -/
def effected (E : Engine σ) (effect : Option String) (st : Stage σ) : Stage σ :=
  (callHook E afterOptionName (runCode E effect st)).2

@[simp] theorem bound_runCode (code : Option String) (st : Stage σ) :
    (runCode E code st).bound = st.bound := by
  cases code <;> simp [runCode]

@[simp] theorem bound_effected (effect : Option String) (st : Stage σ) :
    (effected E effect st).bound = st.bound := by
  simp [effected]

/-- Without an effect and a procedure nothing happens. -/
theorem effected_none {effect : Option String} {st : Stage σ}
    (h : effect = none ∧ E.hasFunction afterOptionName st.engine = false) :
    effected E effect st = st := by
  obtain ⟨rfl, hnone⟩ := h
  simp [effected, runCode, callHook, hnone]

theorem runEffect_eq (effect : Option String) (st : Stage σ) :
    (runEffect E effect st).2 = (takeRedirect E (effected E effect st)).2 ∧
      (runEffect E effect st).1.2 = redirectOf (valueOf E redirectName (effected E effect st)) := by
  cases effect <;> exact ⟨rfl, rfl⟩

end Stage

theorem Section.enter_eq (s : Section) (st : Stage σ) :
    s.enter E st = Stage.runCode E s.run (s.rebind E st) := by
  unfold enter Stage.runCode
  cases s.run <;> rfl

/-- Executing an option: effect and procedure, then the redirect, then the notice. -/
theorem Choice.execute_eq (choice : Choice) (st : Stage σ) :
    (choice.execute E st).2 =
      (choice.renderNotice E (Stage.takeRedirect E (Stage.effected E choice.effect st)).2).2 := by
  rw [← (Stage.runEffect_eq choice.effect st).1]
  rfl

/-- The target of an option and whether it was replaced. -/
theorem Choice.execute_target (choice : Choice) (st : Stage σ) :
    ((choice.execute E st).1.target, (choice.execute E st).1.redirected) =
      choice.finalTarget (Stage.redirectOf
        (Stage.valueOf E Stage.redirectName (Stage.effected E choice.effect st))) := by
  rw [← (Stage.runEffect_eq choice.effect st).2]
  rfl

/-- An option is redirected exactly if it does not start the gamebook over and its effect, or the
procedure after it, has left a redirect. -/
theorem Choice.redirected_iff (choice : Choice) (st : Stage σ) :
    (choice.execute E st).1.redirected = true ↔ choice.target ≠ .restart ∧
      (Stage.redirectOf (Stage.valueOf E Stage.redirectName
        (Stage.effected E choice.effect st))).isSome = true := by
  have htarget := congrArg Prod.snd (choice.execute_target (E := E) st)
  dsimp only at htarget
  rw [htarget]
  unfold finalTarget
  split
  · next redirect hsome => split <;> simp [*]
  · next hnone => simp [hnone]

namespace Story

/-! ## Operations -/

/-- What can be done with a loaded story. -/
inductive Operation where
  | visit (sectionId : String)
  | rebind (sectionId : String)
  | text (sectionId : String)
  | offers (sectionId : String)
  | executeOption (sectionId optionId : String)
  | trigger (eventId : String) (args : List Value)
  | replaceVars (template : String)

/-- The story after an operation, whether the operation has succeeded or not. -/
def perform (E : Engine σ) (story : Story σ) : Operation → Story σ
  | .visit id => (story.visit E id).2
  | .rebind id => (story.rebind E id).2
  | .text id => (story.text E id).2
  | .offers id => (story.offers E id).2
  | .executeOption sectionId optionId => (story.executeOption E sectionId optionId).2
  | .trigger eventId args => (story.trigger E eventId args).2
  | .replaceVars template => (story.replaceVars E template).2

/-- The story after operations. -/
def play (E : Engine σ) (story : Story σ) (operations : List Operation) : Story σ :=
  operations.foldl (perform E) story

/-- The option of a section. -/
def choice? (sectionId optionId : String) (story : Story σ) : Option Choice :=
  (story.section? sectionId).bind fun s => s.choices.find? optionId

/-- The operation shows something to the player, and does nothing else. -/
def Operation.Shows : Operation → Prop
  | .text _ | .offers _ | .replaceVars _ => True
  | _ => False

/-- The operation names a section, an option or an event that the story does not have. -/
def Misses (story : Story σ) : Operation → Prop
  | .visit id | .rebind id => story.section? id = none
  | .executeOption sectionId optionId => story.choice? sectionId optionId = none
  | .trigger eventId _ => story.events.has eventId = false
  | .text _ | .offers _ | .replaceVars _ => False

variable {story : Story σ} {id : String} {s : Section}

theorem perform_visit (h : story.section? id = some s) :
    story.perform E (.visit id) =
      { story with
        sections := story.sections.modify id Section.counted
        stage := Stage.runCode E s.run (s.counted.rebind E story.stage) } := by
  rw [perform, visit_known h, Section.enter_eq]
  rfl

theorem perform_rebind (h : story.section? id = some s) :
    story.perform E (.rebind id) = { story with stage := s.rebind E story.stage } := by
  rw [perform, rebind_known h]

theorem executeOption_choice {optionId : String} {choice : Choice}
    (h : story.choice? id optionId = some choice) :
    story.executeOption E id optionId =
      (.ok (choice.execute E story.stage).1,
        { story with
          sections := story.sections.modify id (Section.spend optionId)
          stage := (choice.execute E story.stage).2 }) := by
  obtain ⟨s, hs, hc⟩ := Option.bind_eq_some_iff.mp h
  exact executeOption_known hs hc

theorem perform_executeOption {optionId : String} {choice : Choice}
    (h : story.choice? id optionId = some choice) :
    story.perform E (.executeOption id optionId) =
      { story with
        sections := story.sections.modify id (Section.spend optionId)
        stage := (choice.renderNotice E
          (Stage.takeRedirect E (Stage.effected E choice.effect story.stage)).2).2 } := by
  rw [perform, executeOption_choice h, Choice.execute_eq]

theorem perform_trigger {eventId : String} (h : story.events.has eventId = true)
    (args : List Value) :
    story.perform E (.trigger eventId args) =
      { story with stage := (Stage.call E (eventFunction eventId) args story.stage).2 } := by
  simp only [perform, trigger, if_pos h, onStage]
  split <;> rfl

theorem perform_misses {operation : Operation} (h : story.Misses operation) :
    story.perform E operation = story := by
  cases operation with
  | visit id => rw [perform, visit_unknown h]
  | rebind id => rw [perform, rebind_unknown h]
  | executeOption sectionId optionId =>
    cases hs : story.section? sectionId with
    | none => simp only [perform, executeOption, hs]
    | some s =>
      rw [Misses, choice?, hs, Option.bind_some] at h
      rw [perform, executeOption_unknown hs h]
  | trigger eventId args =>
    rw [Misses] at h
    simp [perform, trigger, h]
  | text id | offers id | replaceVars template => cases h

/-- Texts, options and templates are shown by evaluating expressions. -/
theorem perform_shows {operation : Operation} (h : operation.Shows) (E : Engine σ)
    (story : Story σ) :
    ∃ stage, story.perform E operation = { story with stage } ∧
      Stage.Looks E story.stage stage := by
  cases operation with
  | text id =>
    cases hs : story.section? id with
    | none => exact ⟨story.stage, by simp only [perform, text, onSection, hs], .refl _⟩
    | some s =>
      obtain ⟨text, stage, heq, hlooks⟩ := text_known (E := E) hs
      exact ⟨stage, by rw [perform, heq], hlooks⟩
  | offers id =>
    cases hs : story.section? id with
    | none => exact ⟨story.stage, by simp only [perform, offers, onSection, hs], .refl _⟩
    | some s =>
      obtain ⟨offers, stage, heq, hlooks⟩ := offers_known (E := E) hs
      exact ⟨stage, by rw [perform, heq], hlooks⟩
  | replaceVars template => exact ⟨_, rfl, Stage.looks_render template _⟩
  | visit id | rebind id | executeOption sectionId optionId | trigger eventId args => cases h

/-! ## All that an operation does -/

/-- What an operation makes of a story. -/
inductive Performed (E : Engine σ) (story : Story σ) : Operation → Story σ → Prop where
  | missed {operation : Operation} (h : story.Misses operation) :
    Performed E story operation story
  | shown {operation : Operation} {stage : Stage σ} (h : operation.Shows)
    (hlooks : Stage.Looks E story.stage stage) :
    Performed E story operation { story with stage }
  | visited {id : String} {s : Section} (hs : story.section? id = some s) :
    Performed E story (.visit id)
      { story with
        sections := story.sections.modify id Section.counted
        stage := Stage.runCode E s.run (s.counted.rebind E story.stage) }
  | rebound {id : String} {s : Section} (hs : story.section? id = some s) :
    Performed E story (.rebind id) { story with stage := s.rebind E story.stage }
  /-- The notice of an option is rendered after its redirect was taken. -/
  | executed {id optionId : String} {choice : Choice}
    (hc : story.choice? id optionId = some choice) {stage : Stage σ}
    (hlooks : Stage.Looks E
      (Stage.takeRedirect E (Stage.effected E choice.effect story.stage)).2 stage) :
    Performed E story (.executeOption id optionId)
      { story with sections := story.sections.modify id (Section.spend optionId), stage }
  | triggered {eventId : String} (h : story.events.has eventId = true) (args : List Value) :
    Performed E story (.trigger eventId args)
      { story with stage := (Stage.call E (eventFunction eventId) args story.stage).2 }

theorem performed (E : Engine σ) (story : Story σ) (operation : Operation) :
    Performed E story operation (story.perform E operation) := by
  by_cases hmisses : story.Misses operation
  · rw [perform_misses hmisses]
    exact .missed hmisses
  by_cases hshows : operation.Shows
  · obtain ⟨stage, heq, hlooks⟩ := perform_shows hshows E story
    rw [heq]
    exact .shown hshows hlooks
  cases operation with
  | visit id =>
    obtain ⟨s, hs⟩ := Option.ne_none_iff_exists'.mp hmisses
    rw [perform_visit hs]
    exact .visited hs
  | rebind id =>
    obtain ⟨s, hs⟩ := Option.ne_none_iff_exists'.mp hmisses
    rw [perform_rebind hs]
    exact .rebound hs
  | executeOption sectionId optionId =>
    obtain ⟨choice, hc⟩ := Option.ne_none_iff_exists'.mp hmisses
    rw [perform_executeOption hc]
    exact .executed hc (choice.looks_renderNotice _)
  | trigger eventId args =>
    have h : story.events.has eventId = true := by simpa [Misses] using hmisses
    rw [perform_trigger h]
    exact .triggered h args
  | text id | offers id | replaceVars template => exact absurd trivial hshows

/-- Operations change progress and stage, and nothing else. -/
theorem Performed.sameBook {operation : Operation} {after : Story σ}
    (h : Performed E story operation after) : SameBook story after := by
  cases h with
  | missed => exact .refl story
  | shown _ _ => exact .on_stage story _
  | visited _ => exact .modify story _ _ Section.unplayed_counted
  | rebound _ => exact .on_stage story _
  | executed _ _ => exact .modify story _ _ (Section.unplayed_spend _)
  | triggered _ args => exact .on_stage story _

theorem sameBook_perform (E : Engine σ) (story : Story σ) (operation : Operation) :
    SameBook story (story.perform E operation) := (performed E story operation).sameBook

theorem sameBook_play (E : Engine σ) (story : Story σ) (operations : List Operation) :
    SameBook story (story.play E operations) := by
  induction operations generalizing story with
  | nil => exact .refl story
  | cons operation rest ih => exact (sameBook_perform E story operation).trans (ih _)

end Story

end Gamebook
