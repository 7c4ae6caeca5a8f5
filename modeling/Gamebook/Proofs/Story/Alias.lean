import Gamebook.Proofs.Documents
import Gamebook.Proofs.Script.Constants
import Gamebook.Proofs.Story.Operations

/-!
# The alias and the namespace

Scripts reach the private variables of the bound section through a copy of them, the alias. Where
the section is bound and where the alias is copied back, alias and namespace are `InStep`: a record
under the alias is the record in the namespace. Constants are the exception, since the host cannot
write them. From there the stage only `Drifts`: guards and placeholders are evaluated, and the
redirect is cleared. So what statements, effects, hooks and events have changed through the alias is
what is saved, and what the section finds when it is bound again.

* `Stage.InStep` : what is under the alias is in the namespace.
* `Stage.Drifts` : what happens between one copying and the next.
* `Story.settled` : the stage at the last copying of a run.
* `Story.alias_kept` : alias and namespace over whole runs.
-/

namespace Gamebook

open Script (Interpreter)

namespace Stage

/-- The second stage comes from the first by evaluating expressions and by taking the redirect. -/
inductive Drifts {σ : Type} (E : Engine σ) (first : Stage σ) : Stage σ → Prop where
  | none : Drifts E first first
  | looked {last after : Stage σ} (h : Drifts E first last) (hlooks : Looks E last after) :
    Drifts E first after
  | taken {last : Stage σ} (h : Drifts E first last) : Drifts E first (takeRedirect E last).2

/-- A record under the alias is what the namespace of the bound section holds, unless that namespace
is a constant. -/
def InStep (st : Stage Interpreter) : Prop :=
  ∀ id fields, st.bound = some id →
    reads Script.engine aliasName st = .ok (.record fields) →
    st.isConstant (sectionNamespace id) = false →
    reads Script.engine (sectionNamespace id) st = .ok (.record fields)

theorem Drifts.trans {σ : Type} {E : Engine σ} {first middle last : Stage σ}
    (h₁ : Drifts E first middle) (h₂ : Drifts E middle last) : Drifts E first last := by
  induction h₂ with
  | none => exact h₁
  | looked _ hlooks ih => exact ih.looked hlooks
  | taken _ ih => exact ih.taken

variable {st : Stage Interpreter}

theorem isConstant_takeRedirect (name : String) (st : Stage Interpreter) :
    (takeRedirect Script.engine st).2.isConstant name = st.isConstant name := by
  rw [takeRedirect]
  dsimp only
  split <;> simp

theorem reads_takeRedirect {name : String} (h : name ≠ redirectName) (st : Stage Interpreter) :
    reads Script.engine name (takeRedirect Script.engine st).2 =
      reads Script.engine name st := by
  rw [takeRedirect]
  dsimp only
  split
  · rfl
  · exact reads_put_of_ne Script.engine_stores.recalls h _ st

theorem Drifts.isConstant {first last : Stage Interpreter} (h : Drifts Script.engine first last)
    (name : String) : last.isConstant name = first.isConstant name := by
  induction h with
  | none => rfl
  | looked _ hlooks ih => exact (hlooks.isConstant name).trans ih
  | taken _ ih => exact (isConstant_takeRedirect name _).trans ih

/-! ## Where alias and namespace are in step -/

/-- Copying the alias back brings the namespace in step. -/
theorem inStep_commit (st : Stage Interpreter) : InStep (commit Script.engine st) := by
  have hE := Script.engine_stores.recalls
  intro id fields hbound halias hfree
  rw [bound_commit] at hbound
  revert halias hfree
  unfold commit
  rw [hbound]
  dsimp only
  split
  · next found hfound =>
    intro halias hfree
    rw [isConstant_put] at hfree
    rw [reads_put_of_ne hE (Ne.symm (sectionNamespace_ne_alias id))] at halias
    rw [valueOf_reads halias] at hfound
    rw [reads_put_free hfree, hfound]
  · next hother =>
    intro halias hfree
    exact absurd (valueOf_reads halias) (hother fields)

/-- Binding a section does so too, if the alias can be written. -/
theorem inStep_rebind (s : Section) (h : st.isConstant aliasName = false) :
    InStep (s.rebind Script.engine st) := by
  intro id fields hbound halias hfree
  obtain rfl : s.id = id := Option.some.inj hbound
  rw [isConstant_rebind] at hfree
  rw [reads_namespace_rebind hfree, ← reads_alias_rebind s h, halias]

theorem inStep_takeRedirect (h : InStep st) : InStep (takeRedirect Script.engine st).2 := by
  intro id fields hbound halias hfree
  rw [bound_takeRedirect] at hbound
  rw [reads_takeRedirect (by decide)] at halias
  rw [isConstant_takeRedirect] at hfree
  rw [reads_takeRedirect (sectionNamespace_ne_redirect id)]
  exact h id fields hbound halias hfree

/-- Statements are followed by copying the alias back. -/
theorem inStep_run (code : String) (st : Stage Interpreter) :
    InStep (run Script.engine code st).2 := inStep_commit _

theorem inStep_call (name : String) (args : List Value) (st : Stage Interpreter) :
    InStep (call Script.engine name args st).2 := inStep_commit _

/-- So are the effect of an option and the procedure after it, if either is there. -/
theorem inStep_effected {effect : Option String}
    (h : effect.isSome = true ∨ Script.engine.hasFunction afterOptionName st.engine = true) :
    InStep (effected Script.engine effect st) := by
  rw [effected, callHook]
  split
  · exact inStep_call _ _ _
  · next hnone =>
    cases effect with
    | none => exact absurd (h.resolve_left (by simp)) hnone
    | some code => exact inStep_run code st

end Stage

namespace Story

/-! ## The last copying -/

/-- The stage of an operation at which a section was bound, or the alias copied back, for the last
time in it; none if the operation does neither. -/
def settling {σ : Type} (E : Engine σ) (story : Story σ) : Operation → Option (Stage σ)
  | .visit id =>
    (story.section? id).map fun s =>
      Stage.runCode E s.run (s.counted.rebind E story.stage)
  | .rebind id => (story.section? id).map fun s => s.rebind E story.stage
  | .executeOption sectionId optionId =>
    (story.choice? sectionId optionId).bind fun choice =>
      if choice.effect.isSome || E.hasFunction Stage.afterOptionName story.stage.engine then
        some (Stage.effected E choice.effect story.stage)
      else none
  | .trigger eventId args =>
    if story.events.has eventId then
      some (Stage.call E (eventFunction eventId) args story.stage).2
    else none
  | .text _ => none
  | .offers _ => none
  | .replaceVars _ => none

/-- The stage at which a section was bound, or the alias copied back, for the last time in a run;
the stage that is given if that never happens. -/
def settled {σ : Type} (E : Engine σ) (story : Story σ) (start : Stage σ) :
    List Operation → Stage σ
  | [] => start
  | operation :: rest =>
    settled E (story.perform E operation) ((story.settling E operation).getD start) rest

variable {story : Story Interpreter}

theorem settling_misses {operation : Operation} (h : story.Misses operation) :
    story.settling Script.engine operation = none := by
  cases operation with
  | visit id | rebind id | executeOption sectionId optionId | trigger eventId args =>
    rw [Misses] at h
    simp [settling, h]
  | text id | offers id | replaceVars template => rfl

theorem settling_shows {operation : Operation} (h : operation.Shows) :
    story.settling Script.engine operation = none := by
  cases operation with
  | text id | offers id | replaceVars template => rfl
  | visit id | rebind id | executeOption sectionId optionId | trigger eventId args => cases h

/-- After its last copying an operation lets the stage drift, or all along if it copies nothing. -/
theorem Performed.drifts {operation : Operation} {after : Story Interpreter}
    (h : Performed Script.engine story operation after) :
    Stage.Drifts Script.engine ((story.settling Script.engine operation).getD story.stage)
      after.stage := by
  cases h with
  | missed h =>
    rw [settling_misses h]
    exact .none
  | shown h hlooks =>
    rw [settling_shows h]
    exact .looked .none hlooks
  | visited hs =>
    simp only [settling, hs]
    exact .none
  | rebound hs =>
    simp only [settling, hs]
    exact .none
  | executed hc hlooks =>
    rename_i id optionId choice stage
    have hstart : (story.settling Script.engine (.executeOption id optionId)).getD story.stage =
        Stage.effected Script.engine choice.effect story.stage := by
      simp only [settling, hc, Option.bind_some]
      split
      · rfl
      · next hnone => exact (Stage.effected_none (by simpa using hnone)).symm
    rw [hstart]
    exact .looked (.taken .none) hlooks
  | triggered h args =>
    simp only [settling, h]
    exact .none

/-- Its last copying brings alias and namespace in step. -/
theorem inStep_settling {operation : Operation} {stage : Stage Interpreter}
    (h : story.settling Script.engine operation = some stage)
    (hfree : stage.isConstant Stage.aliasName = false) : stage.InStep := by
  cases operation with
  | visit id =>
    obtain ⟨s, hs, rfl⟩ := Option.map_eq_some_iff.mp h
    cases hrun : s.run with
    | some code => exact Stage.inStep_run code _
    | none =>
      rw [hrun] at hfree
      exact Stage.inStep_rebind s.counted (Stage.isConstant_rebind _ _ _ ▸ hfree)
  | rebind id =>
    obtain ⟨s, hs, rfl⟩ := Option.map_eq_some_iff.mp h
    exact Stage.inStep_rebind s (Stage.isConstant_rebind _ s _ ▸ hfree)
  | executeOption sectionId optionId =>
    obtain ⟨choice, hc, h⟩ := Option.bind_eq_some_iff.mp h
    split at h
    · next hsome =>
      obtain rfl := Option.some.inj h
      exact Stage.inStep_effected (by simpa using hsome)
    · cases h
  | trigger eventId args =>
    rw [settling] at h
    split at h
    · obtain rfl := Option.some.inj h
      exact Stage.inStep_call _ args _
    · cases h
  | text id | offers id | replaceVars template => cases h

/-- Over a run, the stage drifts from the last copying, and alias and namespace are in step there.
-/
theorem drifts_play {start : Stage Interpreter}
    (hdrifts : Stage.Drifts Script.engine start story.stage)
    (hstep : start.isConstant Stage.aliasName = false → start.InStep)
    (operations : List Operation) :
    let settled := story.settled Script.engine start operations
    Stage.Drifts Script.engine settled (story.play Script.engine operations).stage ∧
      (settled.isConstant Stage.aliasName = false → settled.InStep) := by
  induction operations generalizing story start with
  | nil => exact ⟨hdrifts, hstep⟩
  | cons operation rest ih =>
    -- an operation that copies takes over as the start, any other goes on drifting
    have hperform := (performed Script.engine story operation).drifts
    cases hsettling : story.settling Script.engine operation with
    | none =>
      rw [hsettling] at hperform
      have hrest := ih (hdrifts.trans hperform) hstep
      rwa [settled, hsettling]
    | some stage =>
      rw [hsettling] at hperform
      have hrest := ih hperform (inStep_settling hsettling)
      rwa [settled, hsettling]

/-! ## Alias and namespace over whole runs -/

/-- What scripts change through the alias stays, in a story that was last settled at some stage. -/
structure KeepsAlias (story : Story Interpreter) (settled : Stage Interpreter) : Prop where
  /-- Alias and namespace were in step then, if the alias can be written. -/
  inStep : story.stage.isConstant Stage.aliasName = false → settled.InStep
  /-- Guards and placeholders were evaluated since then, and the redirect was taken, and nothing
  else has happened. -/
  drifts : Stage.Drifts Script.engine settled story.stage
  /-- Entering a section ends with its code, or with binding it. -/
  visited {id : String} {s : Section} (hs : story.section? id = some s)
    (h : s.run.isSome = true ∨ story.stage.isConstant Stage.aliasName = false) :
    (story.perform Script.engine (.visit id)).stage.InStep
  rebound {id : String} {s : Section} (hs : story.section? id = some s)
    (h : story.stage.isConstant Stage.aliasName = false) :
    (story.perform Script.engine (.rebind id)).stage.InStep
  triggered {eventId : String} (h : story.events.has eventId = true) (args : List Value) :
    (story.perform Script.engine (.trigger eventId args)).stage.InStep
  /-- Executing an option ends with an effect or a procedure, if there is one and no notice. -/
  executed {id optionId : String} {choice : Choice} (hc : story.choice? id optionId = some choice)
    (h : choice.effect.isSome = true ∨
      Script.engine.hasFunction Stage.afterOptionName story.stage.engine = true)
    (hnotice : choice.notice = none) :
    (story.perform Script.engine (.executeOption id optionId)).stage.InStep
  /-- What is under the alias when it is in step, is saved. -/
  saved {stage : Stage Interpreter} (hstep : stage.InStep) {id : String} {s : Section}
    {fields : Variables} (hs : story.section? id = some s) (hvisited : s.visits ≠ 0)
    (hbound : stage.bound = some id)
    (halias : Stage.reads Script.engine Stage.aliasName stage = .ok (.record fields))
    (hfree : stage.isConstant (sectionNamespace id) = false) :
    ({ story with stage }.progress Script.engine).find? id = some (s.progress fields)
  /-- As long as nothing else is written to its namespace, the section finds it under the alias,
  with its visit count, when it is entered again. -/
  found {stage later : Stage Interpreter} (hstep : stage.InStep) {id : String} {s : Section}
    {fields : Variables} (hs : story.section? id = some s) (hbound : stage.bound = some id)
    (halias : Stage.reads Script.engine Stage.aliasName stage = .ok (.record fields))
    (hfree : stage.isConstant (sectionNamespace id) = false)
    (hsame : Stage.reads Script.engine (sectionNamespace id) later =
      Stage.reads Script.engine (sectionNamespace id) stage)
    (hwritable : later.isConstant Stage.aliasName = false) :
    Stage.reads Script.engine Stage.aliasName (s.counted.rebind Script.engine later) =
      .ok (.record (fields.insert Stage.visitsName (.int (Int64.ofNat s.counted.visits.toNat))))

/-- The namespace of a section that was entered is saved. -/
theorem find?_progress_reads (hn : story.sections.names.Nodup) {id : String} {s : Section}
    (hs : story.section? id = some s) (hvisited : s.visits ≠ 0) {fields : Variables}
    (hread : Stage.reads Script.engine (sectionNamespace id) story.stage =
      .ok (.record fields)) :
    (story.progress Script.engine).find? id = some (s.progress fields) := by
  rw [find?_progress Script.engine hn, hs, Option.filter_some, if_pos (by simp [hvisited]),
    Option.map_some, Stage.privates_reads hread]

theorem keepsAlias_of_drifts (hk : story.Keyed) (hn : story.sections.names.Nodup)
    {settled : Stage Interpreter} (hdrifts : Stage.Drifts Script.engine settled story.stage)
    (hstep : settled.isConstant Stage.aliasName = false → settled.InStep) :
    story.KeepsAlias settled where
  inStep hfree := hstep (hdrifts.isConstant _ ▸ hfree)
  drifts := hdrifts
  visited := by
    intro id s hs h
    rw [perform_visit hs]
    cases hrun : s.run with
    | some code => exact Stage.inStep_run code _
    | none => exact Stage.inStep_rebind s.counted (h.resolve_left (by simp [hrun]))
  rebound := by
    intro id s hs h
    rw [perform_rebind hs]
    exact Stage.inStep_rebind s h
  triggered := by
    intro eventId h args
    rw [perform_trigger h]
    exact Stage.inStep_call _ args _
  executed := by
    intro id optionId choice hc h hnotice
    rw [perform_executeOption hc]
    simp only [Choice.renderNotice, hnotice]
    exact Stage.inStep_takeRedirect (Stage.inStep_effected h)
  saved := by
    intro stage hstep id s fields hs hvisited hbound halias hfree
    have hs' : ({ story with stage } : Story Interpreter).section? id = some s := hs
    have hn' : ({ story with stage } : Story Interpreter).sections.names.Nodup := hn
    exact find?_progress_reads hn' hs' hvisited (hstep id fields hbound halias hfree)
  found := by
    intro stage later hstep id s fields hs hbound halias hfree hsame hwritable
    have hread := hsame.trans (hstep id fields hbound halias hfree)
    rw [Stage.reads_alias_rebind s.counted hwritable, Section.noted, Section.id_counted,
      hk id s hs, Stage.privates_reads hread]

/-- Over every run of operations of a loaded story, what scripts change through the alias stays. -/
theorem alias_kept {document : Document} {engine : Interpreter}
    (hnames : document.sections.names.Nodup)
    (hload : (load Script.engine document engine).1 = .ok story) (operations : List Operation) :
    (story.play Script.engine operations).KeepsAlias
      (story.settled Script.engine story.stage operations) := by
  obtain ⟨loaded, -, rfl⟩ := load_ok hload
  have hbook := sameBook_play Script.engine (ofDocument document loaded) operations
  -- no section is bound in a loaded story
  have hstart : (ofDocument document loaded).stage.InStep := by
    rintro id fields ⟨⟩
  obtain ⟨hdrifts, hstep⟩ := drifts_play .none (fun _ => hstart) operations
  refine keepsAlias_of_drifts (hbook.keyed (keyed_ofDocument document loaded)) ?_ hdrifts hstep
  rwa [hbook.names_sections, names_ofDocument]

/-- A den where every visit and every search adds to the coins. -/
def coinDen : Source Interpreter :=
  ⟨"sections: \x7bden: \x7bvars: \x7bcoins: 1\x7d, run: s.coins += 1, " ++
    "options: \x7bsearch: \x7btext: Search, run: s.coins += 5\x7d\x7d\x7d\x7d", .seeded 1⟩

/-- The coins that a visit and a search of the den add stay. -/
theorem alias_kept_den :
    ∃ document story, Document.ofText coinDen.text = .ok document ∧
      (load Script.engine document coinDen.engine).1 = .ok story ∧
      KeepsAlias (story.play Script.engine [.visit "den", .executeOption "den" "search"])
        (story.settled Script.engine story.stage
          [.visit "den", .executeOption "den" "search"]) := by
  have hok : (coinDen.opened? Script.engine).isSome = true := by decide +kernel
  obtain ⟨⟨document, story⟩, hopened⟩ := Option.isSome_iff_exists.mp hok
  obtain ⟨hdocument, hload⟩ := Source.opened?_eq_some hopened
  exact ⟨document, story, hdocument, hload,
    alias_kept (Document.distinct_ofText hdocument).sections hload _⟩

end Story

/-! ## Where alias and namespace part -/

/-- The section is bound, and a record under the alias is not what its namespace holds. -/
def Stage.Parted (id : String) (st : Stage Interpreter) : Prop :=
  st.bound = some id ∧ ∃ fields,
    reads Script.engine aliasName st = .ok (.record fields) ∧
    reads Script.engine (sectionNamespace id) st ≠ .ok (.record fields)

/-- A section is bound, and the record under the alias is written otherwise than its namespace. -/
def Stage.readsParted (id : String) (st : Stage Interpreter) : Bool :=
  st.bound == some id &&
  match reads Script.engine aliasName st with
  | .ok (.record fields) =>
    (Value.record fields).toText != (valueOf Script.engine (sectionNamespace id) st).toText
  | _ => false

theorem Stage.parted_of_reads {id : String} {st : Stage Interpreter}
    (h : st.readsParted id = true) : st.Parted id := by
  obtain ⟨hbound, h⟩ := Bool.and_eq_true_iff.mp h
  split at h
  · next fields halias =>
    refine ⟨by simpa using hbound, fields, halias, fun hname => ?_⟩
    rw [valueOf_reads hname] at h
    simp at h
  · cases h

/-- A den whose code makes its own namespace a constant. -/
def lockedDen : Source Interpreter :=
  ⟨"sections: \x7bden: \x7brun: const __s_den = 0;\x7d\x7d", .seeded 1⟩

/-- A den whose text adds to the loot while it is shown. -/
def lootDen : Source Interpreter :=
  ⟨"sections: \x7bden: \x7bvars: \x7bloot: []\x7d, text: '\x7bs.loot.push(1)\x7d'\x7d\x7d",
    .seeded 1⟩

/-- Alias and namespace part where the namespace is a constant, and where a placeholder writes. -/
theorem Story.alias_parts :
    (∃ document story, Document.ofText lockedDen.text = .ok document ∧
      (load Script.engine document lockedDen.engine).1 = .ok story ∧
      (story.play Script.engine [.visit "den"]).stage.Parted "den") ∧
    ∃ document story, Document.ofText lootDen.text = .ok document ∧
      (load Script.engine document lootDen.engine).1 = .ok story ∧
      (story.play Script.engine [.visit "den", .text "den"]).stage.Parted "den" := by
  have hlocked : ((lockedDen.opened? Script.engine).any fun opened =>
      (opened.2.play Script.engine [.visit "den"]).stage.readsParted "den") = true := by
    decide +kernel
  have hloot : ((lootDen.opened? Script.engine).any fun opened =>
      (opened.2.play Script.engine [.visit "den", .text "den"]).stage.readsParted "den") =
        true := by decide +kernel
  obtain ⟨⟨document, story⟩, hopened, hparted⟩ := (Option.any_eq_true ..).mp hlocked
  obtain ⟨⟨document', story'⟩, hopened', hparted'⟩ := (Option.any_eq_true ..).mp hloot
  obtain ⟨hdocument, hload⟩ := Source.opened?_eq_some hopened
  obtain ⟨hdocument', hload'⟩ := Source.opened?_eq_some hopened'
  exact ⟨⟨document, story, hdocument, hload, Stage.parted_of_reads hparted⟩,
    document', story', hdocument', hload', Stage.parted_of_reads hparted'⟩

end Gamebook
