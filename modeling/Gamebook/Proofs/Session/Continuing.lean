import Gamebook.Proofs.Session.Keeping

/-!
# Going on from a save

A session in memory that is kept before a step, and one that goes on from its save, show the same
after the step, and are twins from then on. If the scratch record is empty before the step, they are
twins already; if it is not, the step has to enter a section, and nothing that is asked for until
then may read it.

* `Script.Covering` : names that cover a gamebook, and its interpreter when it was just loaded.
* `Session.Going` : what is known of a session in memory, whatever was done with it.
* `Session.Going.resume_twins`, `Session.Going.resume_settling` : the two ways of going on.
-/

namespace Gamebook

open Script

/-! ## Restored interpreters -/

namespace Script

variable {names : Names} {fresh a b : Interpreter}

namespace Interpreter.Restored

/-- With an empty scratch record, nothing is lost. -/
theorem alike (h : Restored names fresh a b) (hself : Alike names.withScratch fresh a a)
    (hempty : a.Holds Stage.scratchName (.record [])) : Alike names.withScratch fresh a b where
  scope name hname := by
    by_cases hscratch : name = Stage.scratchName
    · subst hscratch
      exact hempty.trans h.scratch.symm
    · rw [Names.withScratch, Names.has_insert, beq_eq_false_iff_ne.mpr hscratch, Bool.false_or]
        at hname
      exact h.scope name hname hscratch
  dice := h.dice
  functions := h.functions
  covered := hself.covered
  procedures := ⟨hself.procedures.1, h.procedures⟩
  helpers := ⟨hself.helpers.1, h.helpers⟩

/-- Otherwise nothing but the scratch record. -/
theorem alikeApart (h : Restored names fresh a b) (hself : Alike names.withScratch fresh a a)
    (hcovered : ∀ f ∈ a.functions, f.within names = true)
    (hfree : a.isConstant Stage.scratchName = false)
    (hunread : names.has Stage.scratchName = false) : AlikeApart names fresh a b where
  alike := by
    refine ⟨fun name hname => h.scope name hname ?_, h.dice, h.functions, hcovered,
      ⟨hself.procedures.1, h.procedures⟩, ⟨hself.helpers.1, h.helpers⟩⟩
    rintro rfl
    rw [hname] at hunread
    cases hunread
  covered := hself.covered
  scratch := by
    refine .inl ⟨hfree, ?_⟩
    rw [isConstant, h.scratch]
    rfl

end Interpreter.Restored

/-! ## Covered gamebooks -/

/-- A text and a seed, its document, and its interpreter when it was just loaded. The names cover
what its scripts read, but for what the code and the texts of its sections read of the scratch
record. -/
structure Covering (names : Names) (text : String) (seed : UInt32) (document : Document)
    (fresh : Interpreter) : Prop where
  parsed : Document.ofText text = .ok document
  registered : Story.register engine document (.seeded seed) = (.ok (), fresh)
  loaded : Source.load engine ⟨text, .seeded seed⟩ = .ok (Story.ofDocument document fresh)
  moves : names.coversMoves document = true
  all : names.withScratch.coversDocument document = true

namespace Covering

variable {text : String} {seed : UInt32} {document : Document}

theorem of_load {story : Story Interpreter} (hparsed : Document.ofText text = .ok document)
    (hload : Source.load engine ⟨text, .seeded seed⟩ = .ok story)
    (hmoves : names.coversMoves document = true)
    (hall : names.withScratch.coversDocument document = true) :
    Covering names text seed document story.stage.engine := by
  obtain ⟨document', loaded, hparsed', hregister, rfl⟩ := Source.load_ok hload
  obtain rfl : document' = document := Except.ok.inj (hparsed'.symm.trans hparsed)
  exact ⟨hparsed, hregister, hload, hmoves, hall⟩

variable (h : Covering names text seed document fresh)
include h

theorem moves_all : names.withScratch.coversMoves document = true := by
  have hall := h.all
  rw [Names.coversDocument, Bool.and_eq_true] at hall
  exact hall.1

theorem covered : fresh.Covered names := .registered h.moves h.registered

theorem covered_all : fresh.Covered names.withScratch := .registered h.moves_all h.registered

/-- The story as it is loaded is a twin of itself. -/
theorem twins {story : Story Interpreter}
    (hload : Source.load engine ⟨text, .seeded seed⟩ = .ok story) :
    story.Twins names.withScratch.demands (Interpreter.Alike names.withScratch fresh) story := by
  obtain rfl := Except.ok.inj (h.loaded.symm.trans hload)
  exact twins_ofDocument h.all h.covered_all

theorem twins_early {story : Story Interpreter}
    (hload : Source.load engine ⟨text, .seeded seed⟩ = .ok story) :
    story.Twins names.early (Interpreter.AlikeApart names fresh) story := by
  obtain rfl := Except.ok.inj (h.loaded.symm.trans hload)
  exact twins_ofDocument_early h.moves h.all h.covered h.covered_all

omit h in
theorem reserved_of_moves {names : Names} (h : names.coversMoves document = true) :
    ∀ name ∈ [Stage.redirectName, Stage.aliasName], names.has name = true := by
  simp only [Names.coversMoves, Bool.and_eq_true, List.all_eq_true] at h
  exact fun name hname => h.2 name (List.mem_append_left _ hname)

theorem settles : engine.Settles names.early names.withScratch.demands
    (Interpreter.AlikeApart names fresh) (Interpreter.Alike names.withScratch fresh) where
  before := engine_indifferent_early (reserved_of_moves h.moves) fun entry hmem =>
    ⟨h.covered.procedures entry hmem, h.covered_all.procedures entry hmem⟩
  after := engine_indifferent (reserved_of_moves h.moves_all) h.covered_all.procedures
  full := names.withScratch.full_demands
  reset value _ _ halike := halike.reset value

end Covering

end Script

/-! ## Sessions in memory -/

namespace Session

/-- Every step goes on playing the document from the source, if starting over does. -/
theorem Plays.closed_source {σ : Type} (E : Engine σ) (text : String) (document : Document)
    {source : Source σ} (hsteady : source.later = source) :
    Closed E fun session => session.Plays text document ∧ session.source = source where
  known h := (Plays.closed E text document).known h.1
  on_stage h _ hbound := ⟨(Plays.closed E text document).on_stage h.1 hbound, h.2⟩
  executed h _ _ _ _ _ hs hc hx := ⟨(Plays.closed E text document).executed h.1 hs hc hx, h.2⟩
  entered h _ _ hs := ⟨(Plays.closed E text document).entered h.1 hs, h.2⟩
  restarted h _ hload :=
    ⟨(Plays.closed E text document).restarted h.1 hload, (congrArg Source.later h.2).trans hsteady⟩

section Closed

variable {σ : Type} {E : Engine σ} {P : Session σ → Prop} {session : Session σ}

theorem state_ofSession (E : Engine σ) (session : Session σ) :
    (Boundary.ofSession E session).2 = session.step E .view := by
  unfold Boundary.ofSession step
  dsimp only
  rcases session.view E with ⟨_ | _, after⟩ <;> rfl

theorem state_afterChoice (E : Engine σ) (followed : Followed) (session : Session σ) :
    (Boundary.afterChoice E followed session).2 = session.step E .view := by
  rw [← state_ofSession]
  unfold Boundary.afterChoice
  rcases Boundary.ofSession E session with ⟨_ | _, after⟩ <;> rfl

theorem state_triggering (E : Engine σ) (eventId : String) (args : List Value)
    (session : Session σ) : (Agent.triggering E eventId args session).2 =
      (session.step E (.trigger eventId args)).step E .view := by
  rw [← state_ofSession]
  unfold Agent.triggering step
  dsimp only
  rcases Boundary.ofSession E (session.trigger E eventId args).2 with ⟨_ | _, after⟩ <;> rfl

/-- Following an option is shown if choosing it succeeds. -/
theorem Closed.choosing (hP : Closed E P) (h : P session) (optionId : String) :
    P (Agent.choosing E optionId session).2 := by
  have hchoose : P (session.choose E optionId).2 := hP.step h (.choose optionId)
  unfold Agent.choosing
  generalize session.choose E optionId = chosen at hchoose ⊢
  rcases chosen with ⟨fault | followed, after⟩
  · exact hchoose
  · dsimp only
    rw [state_afterChoice]
    exact hP.step hchoose .view

end Closed

/-- What is known of a session in memory, whatever was done with it. -/
structure Going (names : Names) (text : String) (seed : UInt32) (document : Document)
    (fresh : Interpreter) (session : Session Interpreter) : Prop where
  plays : session.Plays text document
  source : session.source = ⟨text, .seeded seed⟩
  twins : session.Twins Script.engine names.withScratch.demands
    (Interpreter.Alike names.withScratch fresh) session

variable {names : Names} {text : String} {seed : UInt32} {document : Document}
  {fresh : Interpreter} {session : Session Interpreter}

namespace Going

variable (hcovers : Covering names text seed document fresh)
include hcovers

theorem created {start : Option String}
    (h : create Script.engine ⟨text, .seeded seed⟩ start = .ok session) :
    session.Going names text seed document fresh := by
  obtain ⟨story, s, hload, hs, rfl⟩ := create_ok h
  have hstory := Story.same_visit hcovers.settles.after hcovers.settles.full
    (start.getD story.startId) (hcovers.twins hload)
  obtain rfl := Except.ok.inj (hcovers.loaded.symm.trans hload)
  exact ⟨plays_entered rfl hcovers.parsed (Story.keyed_ofDocument document fresh)
      (.ofDocument document fresh) hs, rfl,
    ⟨rfl, rfl, rfl, hstory.state, fun _ => hcovers.twins⟩⟩

variable (h : session.Going names text seed document fresh)
include h

theorem ofSession : (Boundary.ofSession Script.engine session).2.Going names text seed document
    fresh :=
  have hplays := state_ofSession Script.engine session ▸
    (Plays.closed_source Script.engine text document rfl).step ⟨h.plays, h.source⟩ .view
  ⟨hplays.1, hplays.2,
    (Agent.same_ofSession hcovers.settles.after hcovers.settles.full h.twins).state⟩

theorem choosing (optionId : String) :
    (Agent.choosing Script.engine optionId session).2.Going names text seed document fresh :=
  have hplays := (Plays.closed_source Script.engine text document rfl).choosing
    ⟨h.plays, h.source⟩ optionId
  ⟨hplays.1, hplays.2,
    (Agent.same_choosing hcovers.settles.after hcovers.settles.full optionId h.twins).state⟩

theorem triggering (eventId : String) (args : List Value) :
    (Agent.triggering Script.engine eventId args session).2.Going names text seed document fresh :=
  have hclosed := Plays.closed_source Script.engine text document
    (show (⟨text, .seeded seed⟩ : Source Interpreter).later = _ from rfl)
  have hplays := state_triggering Script.engine eventId args session ▸
    hclosed.step (hclosed.step ⟨h.plays, h.source⟩ (.trigger eventId args)) .view
  ⟨hplays.1, hplays.2,
    (Agent.same_triggering hcovers.settles.after hcovers.settles.full eventId args h.twins).state⟩

/-- A session with an empty scratch record goes on from its save as a twin of itself. -/
theorem resume_twins (hkept : session.Kept names fresh)
    (hempty : session.story.stage.engine.Holds Stage.scratchName (.record [])) :
    ∃ resumed, resume Script.engine ⟨text, .seeded seed⟩ (session.save Script.engine) =
        .ok resumed ∧
      session.Twins Script.engine names.withScratch.demands
        (Interpreter.Alike names.withScratch fresh) resumed := by
  obtain ⟨it, hresume, hrestored⟩ := hkept.resume h.plays h.source hcovers.loaded
  have halike := hrestored.alike h.twins.story.stage.engine hempty
  exact ⟨_, hresume, rfl, h.twins.steady, rfl, h.twins.story.with_stage ⟨rfl, halike⟩,
    h.twins.fresh⟩

/-- Other sessions go on as twins but for the scratch record, if no names but those of the code and
the texts of sections cover it. -/
theorem resume_settling (hkept : session.Kept names fresh)
    (hunread : names.has Stage.scratchName = false) :
    ∃ resumed, resume Script.engine ⟨text, .seeded seed⟩ (session.save Script.engine) =
        .ok resumed ∧
      session.Settling Script.engine names.early names.withScratch.demands
        (Interpreter.AlikeApart names fresh) (Interpreter.Alike names.withScratch fresh)
        resumed := by
  obtain ⟨it, hresume, hrestored⟩ := hkept.resume h.plays h.source hcovers.loaded
  have hcovered : ∀ f ∈ session.story.stage.engine.functions, f.within names = true :=
    hkept.functions ▸ hcovers.covered.functions
  have halike := hrestored.alikeApart h.twins.story.stage.engine hcovered hkept.scratch.1 hunread
  obtain ⟨engine, hplayed⟩ := h.plays.story.book
  have hbook : (Story.ofDocument document fresh).SameBook session.story :=
    (Story.SameBook.on_stage _ (Story.ofDocument document engine).stage).trans hplayed
  have hstage : session.story.stage.Twins (Interpreter.AlikeApart names fresh)
      { session.story.stage with engine := it } := ⟨rfl, halike⟩
  have hstory := (hcovers.twins_early hcovers.loaded).played hbook hstage
  refine ⟨_, hresume, ⟨rfl, h.twins.steady, rfl, hstory, fun story hload => ?_⟩, h.twins⟩
  rw [h.source] at hload
  exact hcovers.twins_early hload

end Going

end Session

end Gamebook
