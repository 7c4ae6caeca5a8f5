import Gamebook.Proofs.Loading
import Gamebook.Script.Interpreter

/-!
# Choosing an option

`Session.choose` has six ends. Two refuse: the id names no option, or an option that is not on
offer; then expressions were evaluated and nothing else has happened. In the four others the option
was executed, once, and its target followed: the story starts over, or cannot be loaded again, or a
section is entered, or there is no such section and the player stays.

`ChoiceStep` says for each end what the player is told, where the session is afterwards, and what
became of visit counts and hidden options. It speaks of recording engines, so that it can also tell
which calls the engine has received.

* `Session.choose_unknown`, `Session.choose_withheld`, `Session.choose_offered` : the result of
  choosing, by the option.
* `Session.choose_step` : every choice is a `ChoiceStep`.
-/

namespace Gamebook

variable {σ : Type}

namespace Session

/-! ## What is on offer -/

/-- The ids of the options that are on offer when choosing begins. -/
def offeredIds (E : Engine σ) (session : Session σ) : List String :=
  match (session.story.offers E session.current).1 with
  | .ok offers => offers.map Offer.id
  | .error _ => []

/-- The stage once it is known which options are on offer. -/
def stageOffered (E : Engine σ) (session : Session σ) : Stage σ :=
  (session.story.offers E session.current).2.stage

/-- The session after an option was executed, with its target not followed yet. -/
def executed (optionId : String) (stage : Stage σ) (session : Session σ) : Session σ :=
  { session with
    story := { session.story with
      sections := session.story.sections.modify session.current (Section.spend optionId)
      stage } }

variable {E : Engine σ} {session : Session σ} {s : Section} {optionId : String}

theorem offers_current (hs : session.story.section? session.current = some s) :
    ∃ offers, session.story.offers E session.current =
        (.ok offers, { session.story with stage := session.stageOffered E }) ∧
      session.offeredIds E = offers.map Offer.id ∧
      Stage.Looks E session.story.stage (session.stageOffered E) := by
  obtain ⟨offers, stage, heq, hlooks⟩ := Story.offers_known (E := E) hs
  refine ⟨offers, ?_, ?_, ?_⟩
  · simp only [stageOffered, heq]
  · simp only [offeredIds, heq]
  · simpa only [stageOffered, heq] using hlooks

private theorem withheld_eq (hs : session.story.section? session.current = some s)
    (offers : List Offer) (stage : Stage σ) :
    withheld offers optionId { session with story := { session.story with stage } } =
      (!decide (optionId ∈ offers.map Offer.id) && s.choices.has optionId) := by
  have hany : offers.any (fun offer => offer.id == optionId) =
      decide (optionId ∈ offers.map Offer.id) := by
    rw [Bool.eq_iff_iff]
    simp only [List.any_eq_true, beq_iff_eq, decide_eq_true_eq, List.mem_map]
  have hsection : ({ session.story with stage } : Story σ).section? session.current = some s := hs
  rw [withheld, hany, hsection]
  rfl

/-! ## The result by the option -/

/-- An id that names no option is refused. -/
theorem choose_unknown (hs : session.story.section? session.current = some s)
    (hc : s.choices.has optionId = false) :
    session.choose E optionId = (.error (.optionNotFound optionId session.current),
      { session with story := { session.story with stage := session.stageOffered E } }) := by
  obtain ⟨offers, hoffers, -, -⟩ := offers_current (E := E) hs
  have hnone : s.choices.find? optionId = none := by
    rwa [Fields.has_eq_isSome, Option.isSome_eq_false_iff, Option.isNone_iff_eq_none] at hc
  have hsection : ({ session.story with stage := session.stageOffered E } : Story σ).section?
      session.current = some s := hs
  simp only [choose, onStory, hoffers, withheld_eq hs, hc, Bool.and_false, Bool.false_eq_true,
    if_false, Story.executeOption_unknown hsection hnone]

/-- An option that is not on offer is refused. -/
theorem choose_withheld (hs : session.story.section? session.current = some s)
    (hc : s.choices.has optionId = true) (ho : optionId ∉ session.offeredIds E) :
    session.choose E optionId = (.error (.optionUnavailable optionId session.current),
      { session with story := { session.story with stage := session.stageOffered E } }) := by
  obtain ⟨offers, hoffers, hids, -⟩ := offers_current (E := E) hs
  rw [hids] at ho
  simp only [choose, onStory, hoffers, withheld_eq hs, hc, ho, decide_false, Bool.not_false,
    Bool.and_true, if_true]

/-- An option on offer is executed and its target followed. -/
theorem choose_offered (hs : session.story.section? session.current = some s) {choice : Choice}
    (hc : s.choices.find? optionId = some choice) (ho : optionId ∈ session.offeredIds E)
    {outcome : Outcome} {stage : Stage σ}
    (hx : choice.execute E (session.stageOffered E) = (outcome, stage)) :
    session.choose E optionId =
      match (session.executed optionId stage).follow E outcome.target with
      | (.error fault, after) => (.error fault, after)
      | (.ok navigation, after) =>
        (.ok ⟨navigation, outcome.notice, outcome.redirected⟩, after) := by
  obtain ⟨offers, hoffers, hids, -⟩ := offers_current (E := E) hs
  rw [hids] at ho
  have hsection : ({ session.story with stage := session.stageOffered E } : Story σ).section?
      session.current = some s := hs
  simp only [choose, onStory, hoffers, withheld_eq hs, ho, decide_true, Bool.not_true,
    Bool.false_and, Bool.false_eq_true, if_false, Story.executeOption_known hsection hc, hx]
  rfl

/-! ## Following a target -/

theorem follow_restart (E : Engine σ) (session : Session σ) :
    session.follow E .restart = match session.source.later.load E with
      | .ok story => (.ok (.restarted story.startId), atStart E session.source.later story)
      | .error fault => (.error fault, session) := by
  rw [follow, restart_eq]
  cases session.source.later.load E <;> rfl

theorem follow_known {id : String} (h : session.story.section? id = some s) :
    session.follow E (.goTo id) =
      (.ok (.entered id),
        { session with story := (session.story.visit E id).2, current := id }) := by
  simp only [follow, goTo, Story.visit_known h]

theorem follow_unknown {id : String} (h : session.story.section? id = none) :
    session.follow E (.goTo id) = (.ok (.blocked (.sectionNotFound id)), session) := by
  simp only [follow, goTo, Story.visit_unknown h]

end Session

/-! ## The step relation -/

/-- The session has only evaluated expressions. -/
structure Untouched (before after : Session (Recorded σ)) : Prop where
  current : after.current = before.current
  bound : after.story.stage.bound = before.story.stage.bound
  visits : ∀ id, after.story.visitsOf id = before.story.visitsOf id
  hidden : ∀ sectionId optionId,
    after.story.hiddenOf sectionId optionId = before.story.hiddenOf sectionId optionId
  calls : ∃ expressions : List String, after.story.stage.engine.calls =
    before.story.stage.engine.calls ++ expressions.map EngineCall.evaluate

/-- An option of the current section, and no other, is hidden if it can be executed once only. -/
def SpendsOnly (optionId : String) (choice : Choice) (before after : Session σ) : Prop :=
  ∀ other otherOption, after.story.hiddenOf other otherOption =
    if other = before.current ∧ otherOption = optionId then some (choice.hidden || choice.isOnce)
    else before.story.hiddenOf other otherOption

/-- The option was executed, which has left this stage, and the player has not moved. -/
structure Stays (optionId : String) (choice : Choice) (stage : Stage σ)
    (before after : Session σ) : Prop where
  source : after.source = before.source
  book : before.story.SameBook after.story
  current : after.current = before.current
  stage : after.story.stage = stage
  bound : after.story.stage.bound = before.story.stage.bound
  visits : ∀ id, after.story.visitsOf id = before.story.visitsOf id
  hidden : SpendsOnly optionId choice before after

/-- The option was executed, which has left this stage, and then a section was entered. -/
structure Moves (E : Engine σ) (optionId : String) (choice : Choice) (stage : Stage σ)
    (id : String) (target : Section) (before after : Session σ) : Prop where
  source : after.source = before.source
  book : before.story.SameBook after.story
  current : after.current = id
  stage : after.story.stage = target.counted.enter E stage
  bound : after.story.stage.bound = some target.id
  counted : ∃ visits, after.story.visitsOf id = some visits ∧
    visits.toNat = min 4294967295 (target.visits.toNat + 1)
  visits : ∀ other, other ≠ id → after.story.visitsOf other = before.story.visitsOf other
  hidden : SpendsOnly optionId choice before after

/-- The story was loaded again and its start section entered. -/
structure StartsOver (E : Engine σ) (story : Story σ) (before after : Session σ) : Prop where
  eq : after = Session.atStart E before.source.later story
  bound : after.story.stage.bound = some story.startId
  counted : after.story.visitsOf story.startId = some 1
  visits : ∀ other, other ≠ story.startId → story.hasSection other = true →
    after.story.visitsOf other = some 0

/-- What choosing an option of a section leads to, by the option and its target. -/
structure ChoiceStep (E : Engine σ) (optionId : String) (s : Section)
    (session : Session (Recorded σ))
    (result : Except Fault Followed × Session (Recorded σ)) : Prop where
  unknown : s.choices.has optionId = false →
    result.1 = .error (.optionNotFound optionId session.current) ∧ Untouched session result.2
  unavailable : s.choices.has optionId = true → optionId ∉ session.offeredIds E.recording →
    result.1 = .error (.optionUnavailable optionId session.current) ∧ Untouched session result.2
  restarted : ∀ choice outcome stage story, s.choices.find? optionId = some choice →
    optionId ∈ session.offeredIds E.recording →
    choice.execute E.recording (session.stageOffered E.recording) = (outcome, stage) →
    outcome.target = .restart → session.source.later.load E.recording = .ok story →
    result.1 = .ok ⟨.restarted story.startId, outcome.notice, outcome.redirected⟩ ∧
      StartsOver E.recording story session result.2
  unloadable : ∀ choice outcome stage fault, s.choices.find? optionId = some choice →
    optionId ∈ session.offeredIds E.recording →
    choice.execute E.recording (session.stageOffered E.recording) = (outcome, stage) →
    outcome.target = .restart → session.source.later.load E.recording = .error fault →
    result.1 = .error fault ∧ Stays optionId choice stage session result.2
  entered : ∀ choice outcome stage id target, s.choices.find? optionId = some choice →
    optionId ∈ session.offeredIds E.recording →
    choice.execute E.recording (session.stageOffered E.recording) = (outcome, stage) →
    outcome.target = .goTo id → session.story.section? id = some target →
    result.1 = .ok ⟨.entered id, outcome.notice, outcome.redirected⟩ ∧
      Moves E.recording optionId choice stage id target session result.2
  blocked : ∀ choice outcome stage id, s.choices.find? optionId = some choice →
    optionId ∈ session.offeredIds E.recording →
    choice.execute E.recording (session.stageOffered E.recording) = (outcome, stage) →
    outcome.target = .goTo id → session.story.section? id = none →
    result.1 = .ok ⟨.blocked (.sectionNotFound id), outcome.notice, outcome.redirected⟩ ∧
      Stays optionId choice stage session result.2

namespace Session

variable {E : Engine σ} {s : Section} {optionId : String}

/-! ### Each end -/

/-- A session that has only worked out what is on offer. -/
private theorem untouched_offered {session : Session (Recorded σ)}
    (hs : session.story.section? session.current = some s) :
    Untouched session { session with
      story := { session.story with stage := session.stageOffered E.recording } } := by
  obtain ⟨offers, -, -, hlooks⟩ := offers_current (E := E.recording) hs
  exact ⟨rfl, hlooks.bound, fun id => rfl, fun sectionId optionId => rfl,
    hlooks.evaluated.calls⟩

variable {session : Session σ} {choice : Choice} {outcome : Outcome} {stage : Stage σ}

/-- The stage that executing an offered option leaves is bound as before the choice. -/
private theorem bound_executed (hs : session.story.section? session.current = some s)
    (hx : choice.execute E (session.stageOffered E) = (outcome, stage)) :
    stage.bound = session.story.stage.bound := by
  obtain ⟨offers, -, -, hlooks⟩ := offers_current (E := E) hs
  have hbound := choice.bound_execute (E := E) (session.stageOffered E)
  rw [hx] at hbound
  exact hbound.trans hlooks.bound

theorem stays_executed (hs : session.story.section? session.current = some s)
    (hc : s.choices.find? optionId = some choice)
    (hx : choice.execute E (session.stageOffered E) = (outcome, stage)) :
    Stays optionId choice stage session (session.executed optionId stage) where
  source := rfl
  book := .modify session.story stage session.current (Section.unplayed_spend optionId)
  current := rfl
  stage := rfl
  bound := bound_executed hs hx
  visits := Story.visitsOf_spend session.story stage session.current optionId
  hidden := Story.hiddenOf_spend session.story stage hs hc

/-- Sections keep their visit counts when an option is executed. -/
private theorem section?_executed (optionId : String) (stage : Stage σ) {id : String}
    {target : Section} (ht : session.story.section? id = some target) :
    ∃ target', (session.executed optionId stage).story.section? id = some target' ∧
      target'.id = target.id ∧ target'.visits = target.visits ∧ target'.run = target.run := by
  rw [executed, Story.section?, Fields.find?_modify]
  split
  · refine ⟨target.spend optionId, ?_, rfl, rfl, rfl⟩
    rw [show session.story.sections.find? id = some target from ht, Option.map_some]
  · exact ⟨target, ht, rfl, rfl, rfl⟩

private theorem moves_executed (hs : session.story.section? session.current = some s)
    (hc : s.choices.find? optionId = some choice)
    (hx : choice.execute E (session.stageOffered E) = (outcome, stage)) {id : String}
    {target : Section} (ht : session.story.section? id = some target) :
    Moves E optionId choice stage id target session
      { session.executed optionId stage with
        story := ((session.executed optionId stage).story.visit E id).2, current := id } := by
  have hstays := stays_executed hs hc hx
  obtain ⟨target', ht', hid, hvisits, hrun⟩ := section?_executed optionId stage ht
  have hstage : ((session.executed optionId stage).story.visit E id).2.stage =
      target.counted.enter E stage := by
    rw [Story.visit_known ht']
    simp only [Section.enter, Section.rebind, Section.counted, hid, hvisits, hrun]
    rfl
  have hcount : session.story.visitsOf id = some target.visits := by
    rw [Story.visitsOf, ht, Option.map_some]
  refine {
    source := rfl
    book := hstays.book.trans (Story.sameBook_visit E id _)
    current := rfl
    stage := hstage
    bound := ?bound
    counted := ⟨Section.nextVisit target.visits, ?counted, Section.toNat_nextVisit _⟩
    visits := ?visits
    hidden := ?hidden }
  case bound =>
    change ((session.executed optionId stage).story.visit E id).2.stage.bound = some target.id
    rw [hstage, Section.bound_enter, Section.id_counted]
  case counted =>
    change ((session.executed optionId stage).story.visit E id).2.visitsOf id = _
    rw [Story.visitsOf_visit ht', if_pos rfl, hstays.visits, hcount, Option.map_some]
  case visits =>
    intro other hother
    change ((session.executed optionId stage).story.visit E id).2.visitsOf other = _
    rw [Story.visitsOf_visit ht', if_neg hother, hstays.visits]
  case hidden =>
    intro other otherOption
    change ((session.executed optionId stage).story.visit E id).2.hiddenOf other otherOption = _
    rw [Story.hiddenOf_visit ht', hstays.hidden]

private theorem startsOver_atStart {story : Story σ}
    (hload : session.source.later.load E = .ok story) :
    StartsOver E story session (atStart E session.source.later story) := by
  have hfresh := Source.fresh_of_load hload
  obtain ⟨start, hstart⟩ := Story.hasSection_iff.mp hfresh.start
  refine ⟨rfl, Story.bound_visit hfresh.keyed hstart, ?counted, ?visits⟩
  case counted =>
    change (story.visit E story.startId).2.visitsOf story.startId = some 1
    rw [Story.visitsOf_visit hstart, if_pos rfl, Story.visitsOf, hstart, Option.map_some,
      Option.map_some, hfresh.unvisited _ _ hstart]
    rfl
  case visits =>
    intro other hother hknown
    obtain ⟨s, hs⟩ := Story.hasSection_iff.mp hknown
    change (story.visit E story.startId).2.visitsOf other = some 0
    rw [Story.visitsOf_visit hstart, if_neg hother, Story.visitsOf, hs, Option.map_some,
      hfresh.unvisited _ _ hs]

/-! ### Every choice -/

/-- Choosing an option of a section that exists is a `ChoiceStep`, whatever the engine does. -/
theorem choose_step (E : Engine σ) {session : Session (Recorded σ)}
    (hs : session.story.section? session.current = some s) (optionId : String) :
    ChoiceStep E optionId s session (session.choose E.recording optionId) where
  unknown hc := by
    rw [choose_unknown hs hc]
    exact ⟨rfl, untouched_offered hs⟩
  unavailable hc ho := by
    rw [choose_withheld hs hc ho]
    exact ⟨rfl, untouched_offered hs⟩
  restarted choice outcome stage story hc ho hx ht hload := by
    have hload' : (session.executed optionId stage).source.later.load E.recording = .ok story :=
      hload
    rw [choose_offered hs hc ho hx, ht, follow_restart, hload']
    exact ⟨rfl, startsOver_atStart hload⟩
  unloadable choice outcome stage fault hc ho hx ht hload := by
    have hload' : (session.executed optionId stage).source.later.load E.recording =
        .error fault := hload
    rw [choose_offered hs hc ho hx, ht, follow_restart, hload']
    exact ⟨rfl, stays_executed hs hc hx⟩
  entered choice outcome stage id target hc ho hx ht htarget := by
    obtain ⟨target', htarget', -⟩ := section?_executed optionId stage htarget
    rw [choose_offered hs hc ho hx, ht, follow_known htarget']
    exact ⟨rfl, moves_executed hs hc hx htarget⟩
  blocked choice outcome stage id hc ho hx ht htarget := by
    have htarget' : (session.executed optionId stage).story.section? id = none := by
      rw [executed, Story.section?, Fields.find?_modify,
        show session.story.sections.find? id = none from htarget]
      split <;> rfl
    rw [choose_offered hs hc ho hx, ht, follow_unknown htarget']
    exact ⟨rfl, stays_executed hs hc hx⟩

/-- A hall with a door that opens once, and the yard behind it; the player stands in the hall. -/
def inHall : Session (Recorded Script.Interpreter) where
  source := ⟨"sections: \x7bhall: \x7b\x7d\x7d", .always ⟨.seeded 1, []⟩⟩
  story :=
    { title := "House", author := none, version := none, roster := [], events := [], hooks := []
      sections :=
        [("hall", ⟨"hall", none, "A hall.", none, [],
          [("door", { id := "door", text := "Leave", target := .goTo "yard", flags := ["once"] })],
          1⟩),
        ("yard", ⟨"yard", none, "A yard.", none, [], [], 0⟩)]
      stage := ⟨⟨.seeded 1, []⟩, some "hall"⟩ }
  current := "hall"

/-- Through the door the player enters the yard, and the door stays shut behind. -/
theorem choose_step_door :
    ∃ hall, inHall.story.section? inHall.current = some hall ∧
      ChoiceStep Script.engine "door" hall inHall
        (inHall.choose Script.engine.recording "door") ∧
      inHall.offeredIds Script.engine.recording = ["door"] ∧
      (inHall.choose Script.engine.recording "door").2.current = "yard" ∧
      (inHall.choose Script.engine.recording "door").2.story.visitsOf "yard" = some 1 ∧
      (inHall.choose Script.engine.recording "door").2.story.hiddenOf "hall" "door" =
        some true := by
  refine ⟨_, rfl, choose_step Script.engine rfl "door", ?_, ?_, ?_, ?_⟩ <;> decide +kernel

end Session

end Gamebook
