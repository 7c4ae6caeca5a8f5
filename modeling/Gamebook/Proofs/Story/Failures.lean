import Gamebook.Proofs.Story.Operations

/-!
# Scripts that fail

An operation of a story fails only for an id that names nothing, and then it asks nothing of the
engine. Whatever else fails is a script, and its failure goes no further: a guard costs its own
option, a placeholder its own text, and after statements or a procedure everything comes that would
have come otherwise.

This is said in two ways. Each operation on ids that name something is given step by step, as it is
whether or not a script fails on the way. And an engine that hides its failures, giving nothing
instead, leads to the same stories with the same results: nothing but the text of an event can tell
them apart.

* `Engine.forgiving` : an engine that hides its failures.
* `Story.Refuses`, `Story.Answers` : ids that name nothing, and ids that name something.
* `Section.availableOf_fails`, `Stage.render_fails` : what a guard and a placeholder cost that fail.
* `Story.failures_contained` : all of it, for every engine and story.
-/

namespace Gamebook

variable {σ : Type}

/-! ## Engines that hide their failures -/

/-- Nothing in place of a fault. -/
def Engine.orNothing (result : Except Fault Value) : Except Fault Value :=
  match result with
  | .ok value => .ok value
  | .error _ => .ok .nil

/-- An engine that does as `E` does, and gives nothing where `E` fails. -/
def Engine.forgiving (E : Engine σ) : Engine σ :=
  { E with
    execute := fun code state =>
      (orNothing (E.execute code state).1, (E.execute code state).2)
    evaluate := fun expression state =>
      (orNothing (E.evaluate expression state).1, (E.evaluate expression state).2)
    read := fun name state => orNothing (E.read name state)
    write := fun name value state => (.ok (), (E.write name value state).2)
    call := fun name args state =>
      (orNothing (E.call name args state).1, (E.call name args state).2) }

variable (E : Engine σ)

namespace Stage

@[simp] theorem put_forgiving (name : String) (value : Value) (st : Stage σ) :
    put E.forgiving name value st = put E name value st := rfl

@[simp] theorem valueOf_forgiving (name : String) (st : Stage σ) :
    valueOf E.forgiving name st = valueOf E name st := by
  simp only [valueOf, Engine.forgiving, Engine.orNothing]
  cases E.read name st.engine <;> rfl

@[simp] theorem privates_forgiving (sectionId : String) (st : Stage σ) :
    privates E.forgiving sectionId st = privates E sectionId st := by
  simp only [privates, valueOf_forgiving]

@[simp] theorem bindSection_forgiving (sectionId : String) (visits : UInt32) (st : Stage σ) :
    bindSection E.forgiving sectionId visits st = bindSection E sectionId visits st := by
  simp only [bindSection, privates_forgiving, put_forgiving]

@[simp] theorem commit_forgiving (st : Stage σ) : commit E.forgiving st = commit E st := by
  simp only [commit, valueOf_forgiving, put_forgiving]

@[simp] theorem runCode_forgiving (code : Option String) (st : Stage σ) :
    runCode E.forgiving code st = runCode E code st := by
  cases code with
  | none => rfl
  | some code => exact commit_forgiving E _

@[simp] theorem check_forgiving (expression : String) (st : Stage σ) :
    check E.forgiving expression st = check E expression st := by
  simp only [check, Engine.forgiving, Engine.orNothing]
  cases (E.evaluate expression st.engine).1 <;> rfl

@[simp] theorem evalText_forgiving : evalText E.forgiving = evalText E := by
  funext expression st
  simp only [evalText, Engine.forgiving, Engine.orNothing]
  cases (E.evaluate expression st.engine).1 <;> rfl

@[simp] theorem render_forgiving (template : String) :
    render E.forgiving template = render E template := by
  simp only [render, evalText_forgiving]

@[simp] theorem call_forgiving (name : String) (args : List Value) (st : Stage σ) :
    (call E.forgiving name args st).2 = (call E name args st).2 := commit_forgiving E _

@[simp] theorem callHook_forgiving (name : String) (st : Stage σ) :
    callHook E.forgiving name st = callHook E name st := by
  simp only [callHook, call_forgiving]
  rfl

@[simp] theorem takeRedirect_forgiving (st : Stage σ) :
    takeRedirect E.forgiving st = takeRedirect E st := by
  simp only [takeRedirect, valueOf_forgiving, put_forgiving]

@[simp] theorem effected_forgiving (effect : Option String) (st : Stage σ) :
    effected E.forgiving effect st = effected E effect st := by
  simp only [effected, runCode_forgiving, callHook_forgiving]

end Stage

namespace Choice

@[simp] theorem isAvailable_forgiving (visits : UInt32) (choice : Choice) (st : Stage σ) :
    choice.isAvailable E.forgiving visits st = choice.isAvailable E visits st := by
  simp only [isAvailable, Stage.check_forgiving]

@[simp] theorem offer_forgiving (choice : Choice) (st : Stage σ) :
    choice.offer E.forgiving st = choice.offer E st := by
  simp only [offer, Stage.render_forgiving]

@[simp] theorem renderNotice_forgiving (choice : Choice) (st : Stage σ) :
    choice.renderNotice E.forgiving st = choice.renderNotice E st := by
  simp only [renderNotice, Stage.render_forgiving]

/-- What executing an option leads to: its effect and the procedure after it, then the redirect,
then the notice. -/
theorem execute_steps (choice : Choice) (st : Stage σ) :
    choice.execute E st =
      let taken := Stage.takeRedirect E (Stage.effected E choice.effect st)
      let notice := choice.renderNotice E taken.2
      (⟨(choice.finalTarget taken.1).1, notice.1, (choice.finalTarget taken.1).2⟩, notice.2) := by
  unfold execute Stage.runEffect Stage.effected Stage.runCode
  cases choice.effect <;> rfl

@[simp] theorem execute_forgiving (choice : Choice) (st : Stage σ) :
    choice.execute E.forgiving st = choice.execute E st := by
  simp only [execute_steps, Stage.effected_forgiving, Stage.takeRedirect_forgiving,
    renderNotice_forgiving]

end Choice

namespace Section

@[simp] theorem availableOf_forgiving (visits : UInt32) (choices : Fields Choice) (st : Stage σ) :
    availableOf E.forgiving visits choices st = availableOf E visits choices st := by
  induction choices generalizing st with
  | nil => rfl
  | cons entry rest ih => simp only [availableOf, Choice.isAvailable_forgiving, ih]

@[simp] theorem enter_forgiving (s : Section) (st : Stage σ) :
    s.enter E.forgiving st = s.enter E st := by
  simp only [enter_eq, rebind, Stage.resetScratch, Stage.put_forgiving,
    Stage.bindSection_forgiving, Stage.runCode_forgiving]

end Section

namespace Story

@[simp] theorem offersOf_forgiving (choices : List Choice) (st : Stage σ) :
    offersOf E.forgiving choices st = offersOf E choices st := by
  induction choices generalizing st with
  | nil => rfl
  | cons choice rest ih => simp only [offersOf, Choice.offer_forgiving, ih]

/-- Playing on an engine that hides its failures is the same as playing on the engine. -/
structure PlaysOn (E : Engine σ) (story : Story σ) : Prop where
  visit : ∀ id, story.visit E.forgiving id = story.visit E id
  text : ∀ id, story.text E.forgiving id = story.text E id
  offers : ∀ id, story.offers E.forgiving id = story.offers E id
  execute : ∀ sectionId optionId,
    story.executeOption E.forgiving sectionId optionId = story.executeOption E sectionId optionId
  trigger : ∀ eventId args,
    (story.trigger E.forgiving eventId args).2 = (story.trigger E eventId args).2

theorem playsOn (story : Story σ) : story.PlaysOn E where
  visit id := by simp only [visit, Section.enter_forgiving]
  text id := by simp only [text, Stage.render_forgiving]
  offers id := by
    simp only [offers, Section.available, Section.availableOf_forgiving, offersOf_forgiving]
  execute sectionId optionId := by
    simp only [executeOption, Choice.execute_forgiving]
  trigger eventId args := by
    cases h : story.events.has eventId with
    | false => simp [trigger, h]
    | true =>
      refine (perform_trigger (E := E.forgiving) h args).trans ?_
      rw [Stage.call_forgiving]
      exact (perform_trigger (E := E) h args).symm

end Story

/-! ## What a failure costs -/

namespace Stage

/-- The stage after an expression was evaluated. -/
def evaluated (expression : String) (st : Stage σ) : Stage σ :=
  { st with engine := (E.evaluate expression st.engine).2 }

/-- Evaluating the expression fails. -/
def Fails (expression : String) (st : Stage σ) : Prop :=
  ∃ fault, (E.evaluate expression st.engine).1 = .error fault

/-- The text of the pieces of a template. -/
def renderPieces (pieces : List Template.Piece) (st : Stage σ) : String × Stage σ :=
  Template.expandPieces (evalText E) pieces st

theorem renderPieces_literal (chars : List Char) (rest : List Template.Piece) (st : Stage σ) :
    renderPieces E (.literal chars :: rest) st =
      (String.ofList chars ++ (renderPieces E rest st).1, (renderPieces E rest st).2) := rfl

theorem renderPieces_expression (chars : List Char) (rest : List Template.Piece) (st : Stage σ) :
    renderPieces E (.expression chars :: rest) st =
      let shown := evalText E (String.ofList chars) st
      (shown.1 ++ (renderPieces E rest shown.2).1, (renderPieces E rest shown.2).2) := rfl

theorem renderPieces_append (before after : List Template.Piece) (st : Stage σ) :
    renderPieces E (before ++ after) st =
      let first := renderPieces E before st
      let last := renderPieces E after first.2
      (first.1 ++ last.1, last.2) := by
  induction before generalizing st with
  | nil => exact Prod.ext (String.empty_append).symm rfl
  | cons piece rest ih =>
    cases piece with
    | literal chars =>
      simp only [List.cons_append, renderPieces_literal, ih, String.append_assoc]
    | expression chars =>
      simp only [List.cons_append, renderPieces_expression, ih, String.append_assoc]

/-- A placeholder that fails leaves no text, and the text around it is what it would be. -/
theorem render_fails {template : String} {before after : List Template.Piece} {chars : List Char}
    (hparse : Template.parse template.toList = before ++ .expression chars :: after)
    (hblank : Text.isBlank (String.ofList chars) = false) {st : Stage σ}
    (hfails : Fails E (String.ofList chars) (renderPieces E before st).2) :
    render E template st =
      let rest := renderPieces E after
        (evaluated E (String.ofList chars) (renderPieces E before st).2)
      ((renderPieces E before st).1 ++ rest.1, rest.2) := by
  obtain ⟨fault, hfault⟩ := hfails
  have hshown : evalText E (String.ofList chars) (renderPieces E before st).2 =
      ("", evaluated E (String.ofList chars) (renderPieces E before st).2) := by
    simp only [evalText, hblank, Bool.false_eq_true, if_false, hfault, evaluated]
  change renderPieces E (Template.parse template.toList) st = _
  simp only [hparse, renderPieces_append, renderPieces_expression, hshown, String.empty_append]

end Stage

namespace Section

theorem availableOf_append (visits : UInt32) (before after : Fields Choice) (st : Stage σ) :
    availableOf E visits (before ++ after) st =
      let first := availableOf E visits before st
      let last := availableOf E visits after first.2
      (first.1 ++ last.1, last.2) := by
  induction before generalizing st with
  | nil => rfl
  | cons entry rest ih =>
    simp only [List.cons_append, availableOf, ih]
    split <;> rfl

/-- A guard that fails makes its own option unavailable, and the others are what they would be. -/
theorem availableOf_fails {visits : UInt32} {before after : Fields Choice} {optionId guard : String}
    {choice : Choice} (hguard : choice.condition = some guard)
    (hopen : choice.gatesOpen visits = true) {st : Stage σ}
    (hfails : Stage.Fails E guard (availableOf E visits before st).2) :
    availableOf E visits (before ++ (optionId, choice) :: after) st =
      let rest := availableOf E visits after
        (Stage.evaluated E guard (availableOf E visits before st).2)
      ((availableOf E visits before st).1 ++ rest.1, rest.2) := by
  obtain ⟨fault, hfault⟩ := hfails
  rw [availableOf_append]
  simp only [availableOf, Choice.isAvailable, hopen, hguard, Stage.check, hfault]
  rfl

end Section

namespace Story

/-! ## All that can fail -/

/-- Ids that name nothing are refused, by every engine alike, and nothing happens. -/
structure Refuses (story : Story σ) : Prop where
  visit : ∀ id, story.section? id = none → ∀ E : Engine σ,
    story.visit E id = (.error (.sectionNotFound id), story)
  text : ∀ id, story.section? id = none → ∀ E : Engine σ,
    story.text E id = (.error (.sectionNotFound id), story)
  offers : ∀ id, story.section? id = none → ∀ E : Engine σ,
    story.offers E id = (.error (.sectionNotFound id), story)
  execute : ∀ id optionId, story.section? id = none → ∀ E : Engine σ,
    story.executeOption E id optionId = (.error (.sectionNotFound id), story)
  option : ∀ id optionId s, story.section? id = some s → s.choices.find? optionId = none →
    ∀ E : Engine σ,
      story.executeOption E id optionId = (.error (.optionNotFound optionId id), story)
  event : ∀ eventId args, story.events.has eventId = false → ∀ E : Engine σ,
    story.trigger E eventId args = (s!"Unable to trigger event: {eventId}", story)
  codes : ∀ id optionId, (Fault.sectionNotFound id).code = "NAV_SECTION_NOT_FOUND" ∧
    (Fault.optionNotFound optionId id).code = "NAV_OPTION_NOT_FOUND"

theorem refuses (story : Story σ) : story.Refuses where
  visit id h E := visit_unknown h
  text id h E := by simp only [text, onSection, h]
  offers id h E := by simp only [offers, onSection, h]
  execute id optionId h E := by simp only [executeOption, h]
  option id optionId s hs hc E := executeOption_unknown hs hc
  event eventId args h E := by simp [trigger, h]
  codes id optionId := ⟨rfl, rfl⟩

/-- Ids that name something are answered, whatever fails on the way; nothing that comes later is
left out. -/
structure Answers (E : Engine σ) (story : Story σ) : Prop where
  /-- The visit is counted and the section bound; its code is run, and the alias copied back. -/
  visit : ∀ id s, story.section? id = some s →
    story.visit E id = (.ok (),
      { story with
        sections := story.sections.modify id Section.counted
        stage := Stage.runCode E s.run (s.counted.rebind E story.stage) })
  text : ∀ id s, story.section? id = some s → story.text E id =
    let shown := Stage.render E s.text story.stage
    (.ok shown.1, { story with stage := shown.2 })
  offers : ∀ id s, story.section? id = some s → story.offers E id =
    let available := s.available E story.stage
    let shown := offersOf E available.1 available.2
    (.ok shown.1, { story with stage := shown.2 })
  /-- The effect and the procedure after it, with the alias copied back after each; then the
  redirect, the notice, and the flag. -/
  execute : ∀ id optionId choice, story.choice? id optionId = some choice →
    story.executeOption E id optionId =
      let taken := Stage.takeRedirect E (Stage.effected E choice.effect story.stage)
      let target := choice.finalTarget taken.1
      let notice := choice.renderNotice E taken.2
      (.ok ⟨target.1, notice.1, target.2⟩,
        { story with
          sections := story.sections.modify id (Section.spend optionId)
          stage := notice.2 })
  /-- The handler is called and the alias copied back; a failure is told as text. -/
  event : ∀ eventId args, story.events.has eventId = true → story.trigger E eventId args =
    let called := E.call (eventFunction eventId) args story.stage.engine
    ((match called.1 with
        | .ok value => value.toText
        | .error fault => s!"Event {eventId} failed: {fault.message}"),
      { story with stage := Stage.commit E { story.stage with engine := called.2 } })

theorem answers (story : Story σ) : story.Answers E where
  visit id s hs := by
    rw [visit_known hs, Section.enter_eq]
    rfl
  text id s hs := by simp only [text, onSection, hs, onStage]
  offers id s hs := by simp only [offers, onSection, hs, onStage]
  execute id optionId choice hc := by
    rw [executeOption_choice hc, Choice.execute_steps]
  event eventId args h := by
    simp only [trigger, h, if_true, onStage, Stage.call]
    split <;> simp_all

/-- Statements and procedures are followed by what comes after them, whether they fail or not. -/
structure Finishes (E : Engine σ) : Prop where
  code : ∀ code st, Stage.runCode E (some code) st =
    Stage.commit E { st with engine := (E.execute code st.engine).2 }
  procedure : ∀ effect st, Stage.effected E effect st =
    let ran := Stage.runCode E effect st
    if E.hasFunction Stage.afterOptionName ran.engine then
      Stage.commit E { ran with engine := (E.call Stage.afterOptionName [] ran.engine).2 }
    else ran

theorem finishes : Finishes E where
  code code st := rfl
  procedure effect st := by
    simp only [Stage.effected, Stage.callHook]
    split <;> rfl

/-- Failures are contained: they cost what has failed and nothing else. -/
structure Contains (E : Engine σ) (story : Story σ) : Prop where
  refuses : story.Refuses
  answers : story.Answers E
  finishes : Finishes E
  playsOn : story.PlaysOn E
  /-- A guard that fails costs its option; the guards after it are evaluated as they would be. -/
  guard : ∀ (s : Section) (st : Stage σ) before optionId choice after guard,
    s.choices = before ++ (optionId, choice) :: after → choice.condition = some guard →
    choice.gatesOpen s.visits = true →
    Stage.Fails E guard (Section.availableOf E s.visits before st).2 →
    s.available E st =
      let first := Section.availableOf E s.visits before st
      let rest := Section.availableOf E s.visits after (Stage.evaluated E guard first.2)
      (first.1 ++ rest.1, rest.2)
  /-- A placeholder that fails costs its text; those after it are evaluated as they would be. -/
  placeholder : ∀ (template : String) (st : Stage σ) before chars after,
    Template.parse template.toList = before ++ .expression chars :: after →
    Text.isBlank (String.ofList chars) = false →
    Stage.Fails E (String.ofList chars) (Stage.renderPieces E before st).2 →
    Stage.render E template st =
      let first := Stage.renderPieces E before st
      let rest := Stage.renderPieces E after (Stage.evaluated E (String.ofList chars) first.2)
      (first.1 ++ rest.1, rest.2)

/-- Whatever fails in whatever engine, its failure is contained in every story. -/
theorem failures_contained (story : Story σ) : story.Contains E where
  refuses := refuses story
  answers := answers E story
  finishes := finishes E
  playsOn := playsOn E story
  guard s st before optionId choice after guard hchoices hguard hopen hfails := by
    rw [Section.available, hchoices]
    exact Section.availableOf_fails E hguard hopen hfails
  placeholder template st before chars after hparse hblank hfails :=
    Stage.render_fails E hparse hblank hfails

/-- An engine that fails whatever it is asked. -/
def broken : Engine Unit where
  isReady _ := true
  execute _ _ := (.error .engineNotReady, ())
  evaluate _ _ := (.error .engineNotReady, ())
  read _ _ := .error .engineNotReady
  write _ _ _ := (.error .engineNotReady, ())
  readAll _ := []
  hasFunction _ _ := true
  define _ _ _ _ := (.error .engineNotReady, ())
  call _ _ _ := (.error .engineNotReady, ())
  addHelpers _ := (.error .engineNotReady, ())
  dice? _ := none
  setDice _ _ := ()

/-- A hall with a gate that is guarded and a door that opens once. -/
def ruin : Story Unit where
  title := "Ruin"
  author := none
  version := none
  roster := []
  events := [("call", [])]
  hooks := []
  sections :=
    [("hall", ⟨"hall", none, "A \x7bsize\x7d hall.", some "dust += 1", [],
      [("gate", ⟨"gate", "Gate", .goTo "hall", some "key", none, none, [], false⟩),
        ("door", ⟨"door", "Door", .goTo "yard", none, some "open()", some "Bang\x7b!\x7d",
          ["once"], false⟩)], 0⟩)]
  stage := ⟨(), none⟩

/-- With nothing but failures the hall is entered and shown, and the door opens once. -/
theorem failures_contained_ruin :
    ruin.Contains broken ∧ (ruin.visit broken "hall").2.visitsOf "hall" = some 1 ∧
      (ruin.text broken "hall").1.toOption = some "A  hall." ∧
      ((ruin.offers broken "hall").1.toOption.map (·.map Offer.id)) = some ["door"] ∧
      ((ruin.executeOption broken "hall" "door").1.toOption.map
        (fun outcome => (outcome.target, outcome.notice))) = some (.goTo "yard", some "Bang") ∧
      (ruin.executeOption broken "hall" "door").2.hiddenOf "hall" "door" = some true ∧
      (ruin.trigger broken "call" []).1 = "Event call failed: Script engine is not ready." := by
  refine ⟨failures_contained broken ruin, ?_, ?_, ?_, ?_, ?_, ?_⟩ <;> decide +kernel

end Story

end Gamebook
