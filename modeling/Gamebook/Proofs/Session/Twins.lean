import Gamebook.Boundary
import Gamebook.Play.Agent
import Gamebook.Proofs.Session.Once

/-!
# Twins

Two states of an engine may differ in what a story never asks for. Let a relation between states be
kept by every request that a story makes, with equal answers. Then two sessions that are equal but
for engines so related show the same, choose and trigger the same, and save the same, and are so
related again afterwards. Starting over makes them equal.

* `Demands` : what a story may ask of an engine.
* `Engine.Indifferent` : requests do not tell related states apart.
* `Session.Twins` : sessions that are equal but for related engines.
* `Agent.same_choosing`, `Agent.same_triggering`, `Session.save_twins` : twins stay twins.
-/

namespace Gamebook

/-- What may be asked of an engine: which code and expressions to run, and which variables to read.
Functions may be called by any name, and every variable may be written. -/
structure Demands where
  code : String → Prop
  expression : String → Prop
  name : String → Prop
  /-- The code that sections may have for entering them. -/
  run : String → Prop
  /-- The templates that sections may have for their texts. -/
  text : String → Prop

/-- Two results that are the same, with states that are related. -/
structure Same {α τ : Type} (rel : τ → τ → Prop) (a b : α × τ) : Prop where
  result : a.1 = b.1
  state : rel a.2 b.2

/-- The result, and the two states. -/
theorem Same.ends {α τ : Type} {rel : τ → τ → Prop} {a b : α × τ} (h : Same rel a b) :
    ∃ result s s', a = (result, s) ∧ b = (result, s') ∧ rel s s' :=
  ⟨a.1, a.2, b.2, rfl, Prod.ext h.result.symm rfl, h.state⟩

/-- The result again, with a state that is related. -/
theorem Same.second {α τ : Type} {rel : τ → τ → Prop} {a b : α × τ} (h : Same rel a b) :
    ∃ s', b = (a.1, s') ∧ rel a.2 s' := ⟨b.2, Prod.ext h.result.symm rfl, h.state⟩

variable {σ : Type} {E : Engine σ} {demands : Demands} {rel : σ → σ → Prop}

/-- Requests do not tell related states apart, and leave them related. -/
structure Engine.Indifferent (E : Engine σ) (demands : Demands) (rel : σ → σ → Prop) : Prop where
  execute : ∀ {code}, demands.code code → ∀ {a b}, rel a b →
    Same rel (E.execute code a) (E.execute code b)
  evaluate : ∀ {expression}, demands.expression expression → ∀ {a b}, rel a b →
    Same rel (E.evaluate expression a) (E.evaluate expression b)
  read : ∀ {name}, demands.name name → ∀ {a b}, rel a b → E.read name a = E.read name b
  write : ∀ (name value) {a b}, rel a b → rel (E.write name value a).2 (E.write name value b).2
  hasFunction : ∀ (name) {a b}, rel a b → E.hasFunction name a = E.hasFunction name b
  call : ∀ (name args) {a b}, rel a b → Same rel (E.call name args a) (E.call name args b)
  dice? : ∀ {a b}, rel a b → E.dice? a = E.dice? b
  reserved : ∀ name ∈ [Stage.redirectName, Stage.aliasName], demands.name name

/-! ## Stages -/

/-- The same section is bound in related engines. -/
structure Stage.Twins (rel : σ → σ → Prop) (a b : Stage σ) : Prop where
  bound : a.bound = b.bound
  engine : rel a.engine b.engine

namespace Stage

variable {a b : Stage σ}

theorem Twins.with_engine (h : Twins rel a b) {a' b' : σ} (hrel : rel a' b') :
    Twins rel { a with engine := a' } { b with engine := b' } := ⟨h.bound, hrel⟩

variable (hE : E.Indifferent demands rel)
include hE

theorem twins_put (name : String) (value : Value) (h : Twins rel a b) :
    Twins rel (put E name value a) (put E name value b) :=
  h.with_engine (hE.write name value h.engine)

theorem valueOf_twins {name : String} (hname : demands.name name) (h : Twins rel a b) :
    valueOf E name a = valueOf E name b := by
  rw [valueOf, valueOf, hE.read hname h.engine]

theorem privates_twins {id : String} (hid : demands.name (sectionNamespace id))
    (h : Twins rel a b) : privates E id a = privates E id b := by
  rw [privates, privates, valueOf_twins hE hid h]

theorem twins_bindSection {id : String} (hid : demands.name (sectionNamespace id)) (visits : UInt32)
    (h : Twins rel a b) : Twins rel (bindSection E id visits a) (bindSection E id visits b) := by
  unfold bindSection
  rw [privates_twins hE hid h]
  exact ⟨rfl, (twins_put hE aliasName _ (twins_put hE _ _ h)).engine⟩

theorem twins_commit (h : Twins rel a b) : Twins rel (commit E a) (commit E b) := by
  unfold commit
  rw [← h.bound, ← valueOf_twins hE (hE.reserved aliasName (by simp)) h]
  split
  · exact h
  · split
    · exact twins_put hE _ _ h
    · exact h

/-! ### Scripts -/

theorem same_run {code : String} (hcode : demands.code code) (h : Twins rel a b) :
    Same (Twins rel) (run E code a) (run E code b) :=
  have hsame := hE.execute hcode h.engine
  ⟨congrArg Except.isOk hsame.result, twins_commit hE (h.with_engine hsame.state)⟩

theorem same_check {expression : String} (hexpression : demands.expression expression)
    (h : Twins rel a b) :
    Same (Twins rel) (check E expression a) (check E expression b) := by
  have hsame := hE.evaluate hexpression h.engine
  refine ⟨?_, h.with_engine hsame.state⟩
  unfold check
  dsimp only
  rw [hsame.result]

theorem same_evalText {expression : String} (hexpression : demands.expression expression)
    (h : Twins rel a b) :
    Same (Twins rel) (evalText E expression a) (evalText E expression b) := by
  have hsame := hE.evaluate hexpression h.engine
  unfold evalText
  split
  · exact ⟨rfl, h⟩
  · refine ⟨?_, h.with_engine hsame.state⟩
    dsimp only
    rw [hsame.result]

theorem same_call (name : String) (args : List Value) (h : Twins rel a b) :
    Same (Twins rel) (call E name args a) (call E name args b) :=
  have hsame := hE.call name args h.engine
  ⟨hsame.result, twins_commit hE (h.with_engine hsame.state)⟩

/-- A hook is called in both or in neither. -/
theorem same_callHook (name : String) (h : Twins rel a b) :
    Same (Twins rel) (callHook E name a) (callHook E name b) := by
  unfold callHook
  rw [hE.hasFunction name h.engine]
  split
  · exact ⟨rfl, (same_call hE name [] h).state⟩
  · exact ⟨rfl, h⟩

theorem same_takeRedirect (h : Twins rel a b) :
    Same (Twins rel) (takeRedirect E a) (takeRedirect E b) := by
  unfold takeRedirect
  rw [valueOf_twins hE (hE.reserved redirectName (by simp)) h]
  refine ⟨rfl, ?_⟩
  dsimp only
  split
  · exact h
  · exact twins_put hE redirectName _ h

theorem same_runEffect {code : Option String} (hcode : ∀ text, code = some text → demands.code text)
    (h : Twins rel a b) :
    Same (Twins rel) (runEffect E code a) (runEffect E code b) := by
  cases code with
  | none =>
    have htaken := same_takeRedirect hE (same_callHook hE afterOptionName h).state
    exact ⟨Prod.ext rfl htaken.result, htaken.state⟩
  | some text =>
    have hran := same_run hE (hcode text rfl) h
    have htaken := same_takeRedirect hE (same_callHook hE afterOptionName hran.state).state
    exact ⟨Prod.ext hran.result htaken.result, htaken.state⟩

end Stage

/-! ## Sections -/

/-- The expressions of a template may be asked for. -/
def Template.Within (demands : Demands) (template : String) : Prop :=
  ∀ chars, .expression chars ∈ parse template.toList →
    demands.expression (String.ofList chars)

/-- All that sections have for entering and showing them may be asked for. -/
structure Demands.Full (demands : Demands) : Prop where
  run : ∀ {code}, demands.run code → demands.code code
  text : ∀ {template}, demands.text template → Template.Within demands template

/-- What an option asks for may be asked for. -/
structure Choice.Within (demands : Demands) (choice : Choice) : Prop where
  text : Template.Within demands choice.text
  condition : ∀ expression, choice.condition = some expression → demands.expression expression
  effect : ∀ code, choice.effect = some code → demands.code code
  notice : ∀ template, choice.notice = some template → Template.Within demands template

/-- What a section asks for may be asked for. -/
structure Section.Within (demands : Demands) (s : Section) : Prop where
  owned : demands.name (sectionNamespace s.id)
  text : demands.text s.text
  run : ∀ code, s.run = some code → demands.run code
  choices : ∀ entry ∈ s.choices, entry.2.Within demands

theorem Fields.forall_modify {α : Type} {P : α → Prop} {entries : Fields α}
    (h : ∀ entry ∈ entries, P entry.2) (name : String) {f : α → α} (hf : ∀ value, P value →
    P (f value)) : ∀ entry ∈ entries.modify name f, P entry.2 := by
  intro entry hmem
  obtain ⟨old, hold, rfl⟩ := List.mem_map.mp hmem
  split
  · exact hf _ (h old hold)
  · exact h old hold

theorem Fields.names_modify {α : Type} (name : String) (f : α → α) (entries : Fields α) :
    (entries.modify name f).names = entries.names := by
  unfold modify names
  rw [List.map_map]
  refine List.map_congr_left fun entry _ => ?_
  dsimp only [Function.comp]
  split <;> rfl

theorem Choice.Within.spent {choice : Choice} (h : choice.Within demands) :
    choice.spent.Within demands := by
  unfold Choice.spent
  split
  · exact ⟨h.text, h.condition, h.effect, h.notice⟩
  · exact h

theorem Section.Within.counted {s : Section} (h : s.Within demands) :
    s.counted.Within demands := ⟨h.owned, h.text, h.run, h.choices⟩

theorem Section.Within.spend {s : Section} (h : s.Within demands) (optionId : String) :
    (s.spend optionId).Within demands :=
  ⟨h.owned, h.text, h.run, Fields.forall_modify h.choices optionId fun _ => Choice.Within.spent⟩

/-- Whether an option is hidden is of no matter. -/
theorem Choice.Within.of_shown {choice other : Choice} (h : choice.Within demands)
    (hshown : choice.shown = other.shown) : other.Within demands where
  text := congrArg Choice.text hshown ▸ h.text
  condition _ hsome := h.condition _ ((congrArg Choice.condition hshown).trans hsome)
  effect _ hsome := h.effect _ ((congrArg Choice.effect hshown).trans hsome)
  notice _ hsome := h.notice _ ((congrArg Choice.notice hshown).trans hsome)

/-- The progress in a section is of no matter. -/
theorem Section.Within.of_unplayed {s other : Section} (h : s.Within demands)
    (hunplayed : s.unplayed = other.unplayed) : other.Within demands where
  owned := congrArg Section.id hunplayed ▸ h.owned
  text := congrArg Section.text hunplayed ▸ h.text
  run _ hsome := h.run _ ((congrArg Section.run hunplayed).trans hsome)
  choices entry hmem := by
    have hchoices : s.choices.map (fun entry => (entry.1, entry.2.shown)) =
        other.choices.map fun entry => (entry.1, entry.2.shown) :=
      congrArg Section.choices hunplayed
    have hshown : (entry.1, entry.2.shown) ∈ s.choices.map fun entry => (entry.1, entry.2.shown) :=
      hchoices ▸ List.mem_map_of_mem hmem
    obtain ⟨first, hfirst, heq⟩ := List.mem_map.mp hshown
    exact (h.choices first hfirst).of_shown (congrArg Prod.snd heq)

section Sections

variable {a b : Stage σ} (hE : E.Indifferent demands rel)
include hE

theorem Stage.same_render {template : String} (ht : Template.Within demands template)
    (h : a.Twins rel b) :
    Same (Twins rel) (render E template a) (render E template b) := by
  unfold Template.Within at ht
  unfold render Template.expand
  generalize Template.parse template.toList = pieces at ht ⊢
  induction pieces generalizing a b with
  | nil => exact ⟨rfl, h⟩
  | cons piece rest ih =>
    cases piece with
    | literal chars =>
      have hrest := ih h fun chars hmem => ht chars (List.mem_cons_of_mem _ hmem)
      exact ⟨congrArg (String.ofList chars ++ ·) hrest.result, hrest.state⟩
    | expression chars =>
      have hfirst := same_evalText hE (ht chars List.mem_cons_self) h
      have hrest := ih hfirst.state fun chars hmem => ht chars (List.mem_cons_of_mem _ hmem)
      refine ⟨?_, hrest.state⟩
      change (evalText E (String.ofList chars) a).1 ++ _ =
        (evalText E (String.ofList chars) b).1 ++ _
      exact hfirst.result ▸ congrArg (_ ++ ·) hrest.result

theorem Choice.same_isAvailable (visits : UInt32) {choice : Choice} (hc : choice.Within demands)
    (h : a.Twins rel b) : Same (Stage.Twins rel)
      (choice.isAvailable E visits a) (choice.isAvailable E visits b) := by
  unfold isAvailable
  split
  · split
    · exact ⟨rfl, h⟩
    · next condition hcondition => exact Stage.same_check hE (hc.condition _ hcondition) h
  · exact ⟨rfl, h⟩

theorem Choice.same_offer {choice : Choice} (hc : choice.Within demands)
    (h : a.Twins rel b) :
    Same (Stage.Twins rel) (choice.offer E a) (choice.offer E b) :=
  have hsame := Stage.same_render hE hc.text h
  ⟨congrArg (Offer.mk choice.id) hsame.result, hsame.state⟩

theorem Choice.same_renderNotice {choice : Choice} (hc : choice.Within demands)
    (h : a.Twins rel b) :
    Same (Stage.Twins rel) (choice.renderNotice E a) (choice.renderNotice E b) := by
  unfold renderNotice
  split
  · exact ⟨rfl, h⟩
  · next template htemplate =>
    have hsame := Stage.same_render hE (hc.notice _ htemplate) h
    refine ⟨?_, hsame.state⟩
    dsimp only
    rw [hsame.result]

theorem Choice.same_execute {choice : Choice} (hc : choice.Within demands)
    (h : a.Twins rel b) :
    Same (Stage.Twins rel) (choice.execute E a) (choice.execute E b) := by
  have heffect := Stage.same_runEffect hE hc.effect h
  have hnotice := Choice.same_renderNotice hE hc heffect.state
  refine ⟨?_, hnotice.state⟩
  unfold execute
  dsimp only
  rw [heffect.result, hnotice.result]

theorem Section.same_availableOf (visits : UInt32) {choices : Fields Choice}
    (hc : ∀ entry ∈ choices, entry.2.Within demands) (h : a.Twins rel b) :
    Same (Stage.Twins rel) (availableOf E visits choices a)
      (availableOf E visits choices b) := by
  induction choices generalizing a b with
  | nil => exact ⟨rfl, h⟩
  | cons entry rest ih =>
    have htested := Choice.same_isAvailable hE visits (hc entry List.mem_cons_self) h
    have hothers := ih (fun entry hmem => hc entry (List.mem_cons_of_mem _ hmem)) htested.state
    refine ⟨?_, hothers.state⟩
    unfold availableOf
    dsimp only
    rw [htested.result, hothers.result]

theorem Story.same_offersOf {choices : List Choice} (hc : ∀ choice ∈ choices, choice.Within demands)
    (h : a.Twins rel b) :
    Same (Stage.Twins rel) (offersOf E choices a) (offersOf E choices b) := by
  induction choices generalizing a b with
  | nil => exact ⟨rfl, h⟩
  | cons choice rest ih =>
    have hshown := Choice.same_offer hE (hc choice List.mem_cons_self) h
    have hothers := ih (fun choice hmem => hc choice (List.mem_cons_of_mem _ hmem)) hshown.state
    refine ⟨?_, hothers.state⟩
    unfold offersOf
    dsimp only
    rw [hshown.result, hothers.result]

/-- Entering a section after the scratch record was reset. -/
theorem Section.twins_enter (hfull : demands.Full) {s : Section} (hs : s.Within demands)
    (h : (Stage.resetScratch E a).Twins rel (Stage.resetScratch E b)) :
    (s.enter E a).Twins rel (s.enter E b) := by
  have hbound : (s.rebind E a).Twins rel (s.rebind E b) :=
    Stage.twins_bindSection hE hs.owned s.visits h
  unfold enter
  split
  · next code hcode => exact (Stage.same_run hE (hfull.run (hs.run code hcode)) hbound).state
  · exact hbound

end Sections

/-! ## Stories -/

/-- The stories are equal but for related engines, and what their sections ask for may be asked
for. -/
structure Story.Twins (demands : Demands) (rel : σ → σ → Prop) (a b : Story σ) : Prop where
  rest : b = { a with stage := b.stage }
  stage : a.stage.Twins rel b.stage
  sections : ∀ entry ∈ a.sections, entry.2.Within demands
  roster : ∀ name ∈ a.roster, demands.name name
  owned : ∀ id ∈ a.sections.names, demands.name (sectionNamespace id)

namespace Story

variable {a b : Story σ} {id : String} {s : Section}

namespace Twins

theorem section?_eq (h : a.Twins demands rel b) (id : String) : b.section? id = a.section? id := by
  rw [h.rest, section?, section?]

theorem section_within (h : a.Twins demands rel b) (hs : a.section? id = some s) :
    s.Within demands := h.sections _ (Fields.mem_of_find? hs)

theorem with_stage (h : a.Twins demands rel b) {st st' : Stage σ} (hst : st.Twins rel st') :
    Twins demands rel { a with stage := st } { b with stage := st' } where
  rest := by rw [h.rest]
  stage := hst
  sections := h.sections
  roster := h.roster
  owned := h.owned

/-- Sections may change in what they do not ask for. -/
theorem modify (h : a.Twins demands rel b) {st st' : Stage σ} (hst : st.Twins rel st')
    (id : String) {f : Section → Section} (hf : ∀ s : Section, s.Within demands →
    (f s).Within demands) :
    Twins demands rel { a with sections := a.sections.modify id f, stage := st }
      { b with sections := b.sections.modify id f, stage := st' } where
  rest := by rw [h.rest]
  stage := hst
  sections := Fields.forall_modify h.sections id hf
  roster := h.roster
  owned other hmem := h.owned other (Fields.names_modify id f a.sections ▸ hmem)

/-- What a book may be asked for, it may be asked for wherever it is being played. -/
theorem played {first first' : Story σ} {rel' : σ → σ → Prop} (h : first.Twins demands rel' first')
    (hbook : first.SameBook a) {st : Stage σ} (hst : a.stage.Twins rel st) :
    Twins demands rel a { a with stage := st } where
  rest := rfl
  stage := hst
  sections entry hmem := by
    have hunplayed := List.mem_map_of_mem (f := fun entry => (entry.1, entry.2.unplayed)) hmem
    rw [hbook.sections] at hunplayed
    obtain ⟨old, hold, heq⟩ := List.mem_map.mp hunplayed
    exact (h.sections old hold).of_unplayed (congrArg Prod.snd heq)
  roster name hname := h.roster name (hbook.roster ▸ hname)
  owned id hid := h.owned id (hbook.names_sections ▸ hid)

end Twins

variable (hE : E.Indifferent demands rel)
include hE

theorem same_visit (hfull : demands.Full) (id : String) (h : a.Twins demands rel b) :
    Same (Twins demands rel) (a.visit E id) (b.visit E id) := by
  unfold visit onSection
  rw [h.section?_eq id]
  cases hs : a.section? id with
  | none => exact ⟨rfl, h⟩
  | some s =>
    have hreset := Stage.twins_put hE Stage.scratchName (.record []) h.stage
    exact ⟨rfl, h.modify (Section.twins_enter hE hfull (h.section_within hs).counted hreset) id
      fun _ => Section.Within.counted⟩

theorem same_text (hfull : demands.Full) (id : String) (h : a.Twins demands rel b) :
    Same (Twins demands rel) (a.text E id) (b.text E id) := by
  unfold text onSection
  rw [h.section?_eq id]
  cases hs : a.section? id with
  | none => exact ⟨rfl, h⟩
  | some s =>
    have hsame := Stage.same_render hE (hfull.text (h.section_within hs).text) h.stage
    exact ⟨congrArg Except.ok hsame.result, h.with_stage hsame.state⟩

theorem same_offers (id : String) (h : a.Twins demands rel b) :
    Same (Twins demands rel) (a.offers E id) (b.offers E id) := by
  unfold offers onSection
  rw [h.section?_eq id]
  cases hs : a.section? id with
  | none => exact ⟨rfl, h⟩
  | some s =>
    have hwithin := h.section_within hs
    have havailable := Section.same_availableOf hE s.visits hwithin.choices h.stage
    have hshown : Same (Stage.Twins rel)
        (offersOf E (s.available E a.stage).1 (s.available E a.stage).2)
        (offersOf E (s.available E b.stage).1 (s.available E b.stage).2) := by
      unfold Section.available
      rw [← havailable.result]
      refine Story.same_offersOf hE (fun choice hmem => ?_) havailable.state
      obtain ⟨optionId, hentry, -⟩ := Section.mem_availableOf hmem
      exact hwithin.choices _ hentry
    exact ⟨congrArg Except.ok hshown.result, h.with_stage hshown.state⟩

theorem same_executeOption (sectionId optionId : String) (h : a.Twins demands rel b) :
    Same (Twins demands rel) (a.executeOption E sectionId optionId)
      (b.executeOption E sectionId optionId) := by
  unfold executeOption
  rw [h.section?_eq sectionId]
  cases hs : a.section? sectionId with
  | none => exact ⟨rfl, h⟩
  | some s =>
    dsimp only
    cases hc : s.choices.find? optionId with
    | none => exact ⟨rfl, h⟩
    | some choice =>
      have hwithin := (h.section_within hs).choices _ (Fields.mem_of_find? hc)
      have hsame := Choice.same_execute hE hwithin h.stage
      exact ⟨congrArg Except.ok hsame.result,
        h.modify hsame.state sectionId fun _ hs => hs.spend optionId⟩

theorem same_trigger (eventId : String) (args : List Value) (h : a.Twins demands rel b) :
    Same (Twins demands rel) (a.trigger E eventId args) (b.trigger E eventId args) := by
  have hevents : b.events.has eventId = a.events.has eventId := by rw [h.rest]
  have hsame := Stage.same_call hE (eventFunction eventId) args h.stage
  unfold trigger onStage
  rw [hevents]
  split
  · dsimp only
    rw [hsame.result]
    split
    · exact ⟨rfl, h.with_stage hsame.state⟩
    · exact ⟨rfl, h.with_stage hsame.state⟩
  · exact ⟨rfl, h⟩

/-! ### Saving -/

theorem snapshot_twins (h : a.Twins demands rel b) : b.snapshot E = a.snapshot E := by
  have hroster : b.roster = a.roster := by rw [h.rest]
  unfold snapshot
  rw [hroster]
  congr 1
  refine List.map_congr_left fun name hmem => ?_
  rw [Stage.valueOf_twins hE (h.roster name hmem) h.stage]

theorem progress_twins (h : a.Twins demands rel b) : b.progress E = a.progress E := by
  have hsections : b.sections = a.sections := by rw [h.rest]
  unfold progress
  rw [hsections]
  congr 1
  refine List.map_congr_left fun entry hmem => ?_
  have hentry := (List.mem_filter.mp hmem).1
  dsimp only
  rw [Stage.privates_twins hE (h.owned _ (List.mem_map_of_mem hentry)) h.stage]

end Story

/-! ## Sessions -/

/-- The sessions are equal but for related engines, also after starting over. -/
structure Session.Twins (E : Engine σ) (demands : Demands) (rel : σ → σ → Prop)
    (a b : Session σ) : Prop where
  source : b.source = a.source
  /-- Starting over loads the story with the engine that it was loaded with before. -/
  steady : a.source.later = a.source
  current : b.current = a.current
  story : a.story.Twins demands rel b.story
  /-- The story as it is loaded is a twin of itself. -/
  fresh : ∀ story, a.source.load E = .ok story → story.Twins demands rel story

namespace Session

variable {a b : Session σ}

theorem Twins.with_story (h : a.Twins E demands rel b) {story story' : Story σ}
    (hstory : story.Twins demands rel story') :
    Twins E demands rel { a with story } { b with story := story' } :=
  ⟨h.source, h.steady, h.current, hstory, h.fresh⟩

theorem Twins.moved (h : a.Twins E demands rel b) {story story' : Story σ}
    (hstory : story.Twins demands rel story') (id : String) :
    Twins E demands rel { a with story, current := id } { b with story := story', current := id } :=
  ⟨h.source, h.steady, rfl, hstory, h.fresh⟩

theorem Twins.onStory {α : Type} {operation : Story σ → α × Story σ} (h : a.Twins E demands rel b)
    (hop : Same (Story.Twins demands rel) (operation a.story) (operation b.story)) :
    Same (Twins E demands rel) (a.onStory operation) (b.onStory operation) :=
  ⟨hop.result, h.with_story hop.state⟩

variable (hE : E.Indifferent demands rel)
include hE

theorem same_text (hfull : demands.Full) (h : a.Twins E demands rel b) :
    Same (Twins E demands rel) (a.onStory (Story.text E a.current))
      (b.onStory (Story.text E b.current)) := by
  rw [h.current]
  exact h.onStory (Story.same_text hE hfull a.current h.story)

theorem same_offers (h : a.Twins E demands rel b) :
    Same (Twins E demands rel) (a.onStory (Story.offers E a.current))
      (b.onStory (Story.offers E b.current)) := by
  rw [h.current]
  exact h.onStory (Story.same_offers hE a.current h.story)

theorem same_executeOption (optionId : String) (h : a.Twins E demands rel b) :
    Same (Twins E demands rel) (a.onStory (Story.executeOption E a.current optionId))
      (b.onStory (Story.executeOption E b.current optionId)) := by
  rw [h.current]
  exact h.onStory (Story.same_executeOption hE a.current optionId h.story)

theorem same_view (hfull : demands.Full) (h : a.Twins E demands rel b) :
    Same (Twins E demands rel) (a.view E) (b.view E) := by
  obtain ⟨text, a', b', ha, hb, h'⟩ := (same_text hE hfull h).ends
  unfold view
  rw [ha, hb]
  cases text with
  | error fault => exact ⟨rfl, h'⟩
  | ok text =>
    obtain ⟨offers, a'', b'', ha', hb', h''⟩ := (same_offers hE h').ends
    dsimp only
    rw [ha', hb']
    cases offers with
    | error fault => exact ⟨rfl, h''⟩
    | ok offers =>
      dsimp only
      rw [h''.current, h''.story.section?_eq]
      split
      · exact ⟨rfl, h''⟩
      · exact ⟨rfl, h''⟩

theorem same_goTo (hfull : demands.Full) (id : String) (h : a.Twins E demands rel b) :
    Same (Twins E demands rel) (a.goTo E id) (b.goTo E id) := by
  obtain ⟨entered, story, story', ha, hb, hstory⟩ := (Story.same_visit hE hfull id h.story).ends
  unfold goTo
  rw [ha, hb]
  cases entered with
  | ok u => exact ⟨rfl, h.moved hstory id⟩
  | error fault => exact ⟨rfl, h.with_story hstory⟩

/-- A session that starts over is a twin of itself. -/
theorem twins_atStart (hfull : demands.Full) {source : Source σ} {story : Story σ}
    (hsteady : source.later = source)
    (hfresh : ∀ story, source.load E = .ok story → story.Twins demands rel story)
    (hload : source.load E = .ok story) :
    (atStart E source story).Twins E demands rel (atStart E source story) :=
  ⟨rfl, hsteady, rfl, (Story.same_visit hE hfull story.startId (hfresh story hload)).state, hfresh⟩

/-- Twins start over in the same way, as they have the same source. -/
theorem same_restart (hfull : demands.Full) (h : a.Twins E demands rel b) :
    Same (Twins E demands rel) (a.restart E) (b.restart E) := by
  rw [restart_eq, restart_eq, h.source, h.steady]
  cases hload : a.source.load E with
  | error fault => exact ⟨rfl, h⟩
  | ok story => exact ⟨rfl, twins_atStart hE hfull h.steady h.fresh hload⟩

theorem same_follow (hfull : demands.Full) (target : Target) (h : a.Twins E demands rel b) :
    Same (Twins E demands rel) (a.follow E target) (b.follow E target) := by
  cases target with
  | restart =>
    obtain ⟨result, a', b', ha, hb, h'⟩ := (same_restart hE hfull h).ends
    unfold follow
    dsimp only
    rw [ha, hb]
    cases result with
    | ok u => exact ⟨congrArg (Except.ok ∘ Navigation.restarted) h'.current.symm, h'⟩
    | error fault => exact ⟨rfl, h'⟩
  | goTo id =>
    obtain ⟨result, a', b', ha, hb, h'⟩ := (same_goTo hE hfull id h).ends
    unfold follow
    dsimp only
    rw [ha, hb]
    cases result with
    | ok u => exact ⟨congrArg (Except.ok ∘ Navigation.entered) h'.current.symm, h'⟩
    | error fault => exact ⟨rfl, h'⟩

/-- Twins choose in the same way. -/
theorem same_choose (hfull : demands.Full) (optionId : String) (h : a.Twins E demands rel b) :
    Same (Twins E demands rel) (a.choose E optionId) (b.choose E optionId) := by
  obtain ⟨offers, a', b', ha, hb, h'⟩ := (same_offers hE h).ends
  unfold choose
  rw [ha, hb]
  cases offers with
  | error fault => exact ⟨rfl, h'⟩
  | ok offers =>
    have hwithheld : b'.withheld offers optionId = a'.withheld offers optionId := by
      rw [withheld, withheld, h'.current, h'.story.section?_eq]
    obtain ⟨outcome, a'', b'', ha', hb', h''⟩ := (same_executeOption hE optionId h').ends
    dsimp only
    rw [hwithheld, ha', hb']
    split
    · exact ⟨congrArg (Except.error ∘ Fault.optionUnavailable optionId) h'.current.symm, h'⟩
    · cases outcome with
      | error fault => exact ⟨rfl, h''⟩
      | ok outcome =>
        obtain ⟨navigation, last, last', hlast, hlast', htwins⟩ :=
          (same_follow hE hfull outcome.target h'').ends
        dsimp only
        rw [hlast, hlast']
        cases navigation with
        | error fault => exact ⟨rfl, htwins⟩
        | ok navigation => exact ⟨rfl, htwins⟩

/-- Twins save the same. -/
theorem save_twins (h : a.Twins E demands rel b) : b.save E = a.save E := by
  have htitle : b.story.title = a.story.title := by rw [h.story.rest]
  rw [save, save, htitle, h.current, Story.snapshot_twins hE h.story,
    Story.progress_twins hE h.story, Story.dice?, Story.dice?, hE.dice? h.story.stage.engine]

end Session

namespace Agent

variable {a b : Session σ} (hE : E.Indifferent demands rel) (hfull : demands.Full)
include hE hfull

/-- Twins show the same. -/
theorem same_ofSession (h : a.Twins E demands rel b) :
    Same (Session.Twins E demands rel) (Boundary.ofSession E a) (Boundary.ofSession E b) := by
  obtain ⟨view, a', b', ha, hb, h'⟩ := (Session.same_view hE hfull h).ends
  unfold Boundary.ofSession
  rw [ha, hb]
  cases view with
  | ok view => exact ⟨rfl, h'⟩
  | error fault => exact ⟨rfl, h'⟩

/-- Twins show the same after an option was followed. -/
theorem same_afterChoice (followed : Followed) (h : a.Twins E demands rel b) :
    Same (Session.Twins E demands rel) (Boundary.afterChoice E followed a)
      (Boundary.afterChoice E followed b) := by
  obtain ⟨shown, last, last', hlast, hlast', htwins⟩ := (same_ofSession hE hfull h).ends
  unfold Boundary.afterChoice
  rw [hlast, hlast']
  cases shown with
  | error fault => exact ⟨rfl, htwins⟩
  | ok boundary => exact ⟨rfl, htwins⟩

/-- Twins show the same after choosing an option. -/
theorem same_choosing (optionId : String) (h : a.Twins E demands rel b) :
    Same (Session.Twins E demands rel) (choosing E optionId a) (choosing E optionId b) := by
  obtain ⟨followed, a', b', ha, hb, h'⟩ := (Session.same_choose hE hfull optionId h).ends
  unfold choosing
  rw [ha, hb]
  cases followed with
  | error fault => exact ⟨rfl, h'⟩
  | ok followed => exact same_afterChoice hE hfull followed h'

/-- Twins show the same after triggering an event. -/
theorem same_triggering (eventId : String) (args : List Value) (h : a.Twins E demands rel b) :
    Same (Session.Twins E demands rel) (triggering E eventId args a)
      (triggering E eventId args b) := by
  obtain ⟨message, a', b', ha, hb, h'⟩ :=
    (h.onStory (Story.same_trigger hE eventId args h.story)).ends
  obtain ⟨shown, last, last', hlast, hlast', htwins⟩ := (same_ofSession hE hfull h').ends
  unfold triggering Session.trigger
  rw [ha, hb]
  dsimp only
  rw [hlast, hlast']
  cases shown with
  | error fault => exact ⟨rfl, htwins⟩
  | ok boundary => exact ⟨rfl, htwins⟩

end Agent

end Gamebook
