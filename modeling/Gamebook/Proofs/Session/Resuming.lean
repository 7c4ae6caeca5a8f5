import Gamebook.Proofs.Script.Storing
import Gamebook.Proofs.Session.Reaching

/-!
# What going on from a save keeps

A session that goes on from a save is in the saved section, its declared variables have their saved
values, and its dice are in the saved state: variables are put back after all code has run, and dice
after that. This needs an engine that stores variables, and it holds for every save that is
accepted. If the save was taken from a reached session and went through its text, every section has
its visits and its hidden options as well; what scripts and engine do is of no matter there.

* `Session.resume_holds` : place, variables and dice.
* `Session.resume_keeps_progress` : these, and the progress in every section.
-/

namespace Gamebook

variable {σ : Type} {E : Engine σ}

namespace Story

/-! ## Variables that are put back -/

section Stores

variable (hE : E.Stores) {state : Variables} {name : String} {names : List String}
  {st written : Stage σ}
include hE

/-- Putting variables back changes no variable that is not put back. -/
theorem reads_putBackOf_absent (h : putBackOf E state names st = (.ok (), written))
    (habsent : name ∈ names → state.find? name = none) :
    Stage.reads E name written = Stage.reads E name st := by
  induction names generalizing st with
  | nil =>
    cases h
    rfl
  | cons first rest ih =>
    have hrest : name ∈ rest → state.find? name = none :=
      fun hmem => habsent (List.mem_cons_of_mem _ hmem)
    unfold putBackOf at h
    split at h
    · exact ih h hrest
    · next value hvalue =>
      have hne : name ≠ first := by
        rintro rfl
        rw [habsent List.mem_cons_self] at hvalue
        cases hvalue
      split at h
      · next after hwrite =>
        have hother := Stage.reads_write_of_ne hE.recalls hne value st
        rw [hwrite] at hother
        exact (ih h hrest).trans hother
      · cases h

/-- A variable that is put back reads as its value. -/
theorem reads_putBackOf (h : putBackOf E state names st = (.ok (), written))
    (hmem : name ∈ names) {value : Value} (hvalue : state.find? name = some value) :
    Stage.reads E name written = .ok value := by
  induction names generalizing st with
  | nil => cases hmem
  | cons first rest ih =>
    by_cases hrest : name ∈ rest
    · unfold putBackOf at h
      split at h
      · exact ih h hrest
      · split at h
        · exact ih h hrest
        · cases h
    · -- the name is the first one, and no later write touches it
      obtain rfl : name = first := (List.mem_cons.mp hmem).resolve_right hrest
      simp only [putBackOf, hvalue] at h
      split at h
      · next after hwrite =>
        rw [reads_putBackOf_absent hE h fun hmem => absurd hmem hrest]
        exact Stage.reads_write hE.recalls hwrite
      · cases h

end Stores

/-- The visits of every section and the hidden options are the same. -/
structure SameProgress (before after : Story σ) : Prop where
  visits : ∀ id, after.visitsOf id = before.visitsOf id
  hidden : ∀ sectionId optionId,
    after.hiddenOf sectionId optionId = before.hiddenOf sectionId optionId

end Story

namespace Session

/-- The session is where the save says, with its declared variables and its dice. -/
structure Holds (E : Engine σ) (save : Save) (session : Session σ) : Prop where
  current : session.current = save.sectionId
  globals : ∀ name ∈ session.story.roster, ∀ value, save.globals.find? name = some value →
    E.read name session.story.stage.engine = .ok value
  dice : ∀ dice, save.dice = some dice → E.dice? session.story.stage.engine = some dice

theorem reads_restoreDice (hE : E.Stores) (save : Save) (story : Story σ) (name : String) :
    Stage.reads E name (restoreDice E save story).stage = Stage.reads E name story.stage := by
  unfold restoreDice
  split
  · exact hE.read_setDice name _ _
  · rfl

/-- Whatever code runs on the way, a session that goes on from a save holds what was saved. -/
theorem resume_holds (hE : E.Stores) {source : Source σ} {save : Save} {session : Session σ}
    (h : resume E source save = .ok session) : session.Holds E save := by
  obtain ⟨-, story, entered, written, -, -, hwritten, rfl⟩ := resume_ok h
  obtain ⟨stage, hstage, rfl⟩ := Story.putBack_ok hwritten
  have hroster : (restoreDice E save { entered with stage }).roster = entered.roster := by
    obtain ⟨stage', hdice, -⟩ := restoreDice_eq E save { entered with stage }
    rw [hdice]
  refine ⟨rfl, fun name hmem value hvalue => ?_, fun dice hsaved => ?_⟩
  · rw [hroster] at hmem
    exact (reads_restoreDice hE save _ name).trans
      (Story.reads_putBackOf hE hstage hmem hvalue)
  · simp only [restoreDice, hsaved]
    exact hE.dice?_setDice dice _

/-- Going on from any accepted save gives back place, variables and dice; going on from the text of
its own save, a reached session finds the progress in every section as it was. -/
theorem resume_keeps_progress :
    (∀ (source : Source Script.Interpreter) (save : Save) (session : Session Script.Interpreter),
      resume Script.engine source save = .ok session → session.Holds Script.engine save) ∧
    ∀ {σ : Type} (E : Engine σ) (text : String) (session resumed : Session σ)
      (engines : Engines σ) (written : String) (save : Save),
      Reached E text session → (session.save E).WrittenAs written →
      Save.ofText written = .ok save → resume E ⟨text, engines⟩ save = .ok resumed →
      Story.SameProgress session.story resumed.story := by
  refine ⟨fun source save session => resume_holds Script.engine_stores, ?_⟩
  intro σ E text session resumed engines written save hreached hwritten hread hresume
  obtain ⟨document, hplays⟩ := hreached.plays
  have hsections := (hplays.section?_resumed hwritten hread hresume).1
  refine ⟨fun id => ?_, fun sectionId optionId => ?_⟩
  · rw [Story.visitsOf, Story.visitsOf, hsections]
  · rw [Story.hiddenOf, Story.hiddenOf, hsections]

/-- Begins a session, and goes on from the text of its save. -/
def beginAgain (E : Engine σ) (source : Source σ) : Option (Session σ × Save × Session σ) :=
  (create E source none).toOption.bind fun session =>
    (Save.ofText (session.save E).toJson.compact).toOption.bind fun save =>
      (resume E source save).toOption.map fun resumed => (session, save, resumed)

theorem beginAgain_eq_some {source : Source σ} {session resumed : Session σ} {save : Save}
    (h : beginAgain E source = some (session, save, resumed)) :
    create E source none = .ok session ∧
      Save.ofText (session.save E).toJson.compact = .ok save ∧
      resume E source save = .ok resumed := by
  obtain ⟨session', hcreate, h⟩ := Option.bind_eq_some_iff.mp h
  obtain ⟨save', hread, h⟩ := Option.bind_eq_some_iff.mp h
  obtain ⟨resumed', hresume, h⟩ := Option.map_eq_some_iff.mp h
  cases h
  exact ⟨toOption_eq_some hcreate, toOption_eq_some hread, toOption_eq_some hresume⟩

/-- A vault with gold, of which every visit adds some. -/
def vault : Source Script.Interpreter :=
  ⟨"vars: \x7bgold: 1\x7d\nsections: \x7bvault: \x7brun: gold += 2\x7d\x7d", .seeded 1⟩

/-- Going on in the vault from the text of a save. -/
theorem resume_keeps_progress_vault :
    ∃ session save resumed, create Script.engine vault none = .ok session ∧
      Save.ofText (session.save Script.engine).toJson.compact = .ok save ∧
      resume Script.engine vault save = .ok resumed ∧ resumed.Holds Script.engine save ∧
      Story.SameProgress session.story resumed.story := by
  have hsome : (beginAgain Script.engine vault).isSome = true := by decide +kernel
  obtain ⟨⟨session, save, resumed⟩, hagain⟩ := Option.isSome_iff_exists.mp hsome
  obtain ⟨hcreate, hread, hresume⟩ := beginAgain_eq_some hagain
  refine ⟨session, save, resumed, hcreate, hread, hresume, ?_, ?_⟩
  · exact resume_keeps_progress.1 vault save resumed hresume
  · exact resume_keeps_progress.2 Script.engine vault.text session resumed vault.engines _ save
      (.created hcreate) (.inl rfl) hread hresume

end Session

end Gamebook
