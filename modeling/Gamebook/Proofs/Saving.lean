import Gamebook.Proofs.Loading

/-!
# What saving keeps of the sections

A save holds the progress of the sections that were entered. Restoring it into a story of the same
book puts visit counts and hidden options back, and touches no other section. Neither restoring nor
putting variables back binds a section; `Story.rebind` does.

* `Story.find?_progress` : what a save holds of a section.
* `Story.restore_ok` : the sections after a restore that succeeds.
* `Section.withProgress_progress` : its own progress makes a section of the book what it was.
* `Session.resume_ok` : what going on from a save consists of.
-/

namespace Gamebook

variable {σ : Type} {E : Engine σ}

/-! ## Sections -/

namespace Section

/-- Where every option has its own id, the hidden ones are those with a hidden id. -/
theorem contains_hiddenIds {s : Section} (hn : s.choices.names.Nodup) {optionId : String}
    {choice : Choice} (h : (optionId, choice) ∈ s.choices) :
    s.hiddenIds.contains optionId = choice.hidden := by
  rw [Bool.eq_iff_iff, List.contains_iff_mem, hiddenIds, Fields.names, List.mem_map]
  constructor
  · rintro ⟨⟨otherId, other⟩, hmem, rfl⟩
    obtain ⟨hother, hhidden⟩ := List.mem_filter.mp hmem
    have heq := (Fields.find?_of_mem hn hother).symm.trans (Fields.find?_of_mem hn h)
    cases heq
    exact hhidden
  · exact fun hhidden => ⟨_, List.mem_filter.mpr ⟨h, hhidden⟩, rfl⟩

/-- The progress of a section, put into the same section of another story, makes it what it was. -/
theorem withProgress_progress {s₀ s : Section} (h : s₀.unplayed = s.unplayed)
    (hn : s.choices.names.Nodup) (vars : Variables) :
    s₀.withProgress (s.progress vars) = s := by
  have hchoices : s₀.choices.map (fun entry => (entry.1, entry.2.shown)) =
      s.choices.map (fun entry => (entry.1, entry.2.shown)) := congrArg Section.choices h
  -- putting flags back reads an option only through its shown form
  have hput (choices : Fields Choice) :
      choices.map (fun entry =>
        (entry.1, { entry.2 with hidden := s.hiddenIds.contains entry.1 })) =
      (choices.map (fun entry => (entry.1, entry.2.shown))).map (fun entry =>
        (entry.1, { entry.2 with hidden := s.hiddenIds.contains entry.1 })) := by
    rw [List.map_map]
    rfl
  have hback : s₀.choices.map (fun entry =>
      (entry.1, { entry.2 with hidden := s.hiddenIds.contains entry.1 })) = s.choices := by
    rw [hput, hchoices, ← hput]
    refine (List.map_congr_left fun entry hmem => ?_).trans (List.map_id _)
    rw [contains_hiddenIds hn hmem]
    rfl
  have hrest : { s₀ with visits := s.visits, choices := s.choices } = s :=
    congrArg (fun u : Section => { u with visits := s.visits, choices := s.choices }) h
  rw [← hrest]
  exact congrArg (fun choices => { s₀ with visits := s.visits, choices }) hback

end Section

namespace Story

variable {story : Story σ} {id : String} {s : Section}

/-! ## Binding without a visit -/

theorem rebind_known (h : story.section? id = some s) :
    story.rebind E id = (.ok (), { story with stage := s.rebind E story.stage }) := by
  simp only [rebind, onSection, h]

theorem rebind_unknown (h : story.section? id = none) :
    story.rebind E id = (.error (.sectionNotFound id), story) := by
  simp only [rebind, onSection, h]

/-! ## Variables -/

private theorem bound_putBackOf (state : Variables) (names : List String) (st : Stage σ) :
    (putBackOf E state names st).2.bound = st.bound := by
  induction names generalizing st with
  | nil => rfl
  | cons name rest ih =>
    unfold putBackOf
    split
    · exact ih st
    · next value _ =>
      split
      · next written hwrite =>
        have hbound := Stage.bound_write (E := E) name value st
        rw [hwrite] at hbound
        exact (ih written).trans hbound
      · next written hwrite =>
        have hbound := Stage.bound_write (E := E) name value st
        rwa [hwrite] at hbound

/-- Putting variables back leaves the sections and the bound one alone. -/
theorem putBack_eq (E : Engine σ) (state : Variables) (story : Story σ) :
    ∃ result stage, story.putBack E state = (result, { story with stage }) ∧
      stage.bound = story.stage.bound :=
  ⟨_, _, rfl, bound_putBackOf state story.roster story.stage⟩

theorem putBack_ok {state : Variables} {written : Story σ}
    (h : story.putBack E state = (.ok (), written)) :
    ∃ stage, putBackOf E state story.roster story.stage = (.ok (), stage) ∧
      written = { story with stage } := by
  obtain ⟨hok, hwritten⟩ := Prod.mk.inj h
  exact ⟨_, Prod.ext hok rfl, hwritten.symm⟩

/-! ## Progress -/

/-- Writes the saved private variables of a section, if there are any. -/
def putPrivates (E : Engine σ) (id : String) (vars : Variables) (st : Stage σ) :
    Except Fault Unit × Stage σ :=
  if vars.isEmpty then (.ok (), st) else Stage.write E (sectionNamespace id) (.record vars) st

@[simp] theorem bound_putPrivates (id : String) (vars : Variables) (st : Stage σ) :
    (putPrivates E id vars st).2.bound = st.bound := by
  unfold putPrivates
  split <;> simp

theorem restore_known {progress : Progress} {rest : Fields Progress}
    (h : story.hasSection id = true) {result : Except Fault Unit} {stage : Stage σ}
    (hput : putPrivates E id progress.vars story.stage = (result, stage)) :
    restore E ((id, progress) :: rest) story =
      match result with
      | .ok () => restore E rest { story with
          sections := story.sections.modify id (Section.withProgress progress), stage }
      | .error fault => (.error fault, { story with
          sections := story.sections.modify id (Section.withProgress progress), stage }) := by
  rw [restore, if_pos h]
  unfold putPrivates at hput
  dsimp only
  split at hput
  · next hempty =>
    cases hput
    rw [if_pos hempty]
  · next hfull =>
    rw [if_neg hfull]
    simp only [onStage, hput]
    cases result <;> rfl

theorem restore_unknown {progress : Progress} {rest : Fields Progress}
    (h : story.hasSection id = false) :
    restore E ((id, progress) :: rest) story = restore E rest story := by
  rw [restore, if_neg (by simp [h])]

/-- Restoring touches nothing but progress and stage, and binds no section. -/
theorem restore_keeps (E : Engine σ) (progress : Fields Progress) (story : Story σ) :
    SameBook story (restore E progress story).2 ∧
      (restore E progress story).2.stage.bound = story.stage.bound := by
  induction progress generalizing story with
  | nil => exact ⟨.refl story, rfl⟩
  | cons entry rest ih =>
    obtain ⟨id, progress⟩ := entry
    cases hknown : story.hasSection id with
    | false => rw [restore_unknown hknown]; exact ih story
    | true =>
      obtain ⟨result, stage, hput⟩ :
          ∃ result stage, putPrivates E id progress.vars story.stage = (result, stage) :=
        ⟨_, _, rfl⟩
      have hbound : stage.bound = story.stage.bound := by
        rw [← bound_putPrivates (E := E) id progress.vars story.stage, hput]
      have hbook := SameBook.modify story stage id (Section.unplayed_withProgress progress)
      rw [restore_known hknown hput]
      cases result with
      | ok u => exact ⟨hbook.trans (ih _).1, (ih _).2.trans hbound⟩
      | error fault => exact ⟨hbook, hbound⟩

theorem sameBook_restore {progress : Fields Progress} {story kept : Story σ}
    {result : Except Fault Unit} (h : restore E progress story = (result, kept)) :
    SameBook story kept := by
  have hkeeps := (restore_keeps E progress story).1
  rwa [h] at hkeeps

/-- The sections with their progress put back. -/
def restored (progress : Fields Progress) (sections : Fields Section) : Fields Section :=
  progress.foldl (fun acc entry => acc.modify entry.1 (Section.withProgress entry.2)) sections

/-- A restore that succeeds passes over an unknown section, or puts back its progress and its
private variables; then it goes on. -/
theorem restore_cons_ok {progress : Progress} {rest : Fields Progress} {kept : Story σ}
    (h : restore E ((id, progress) :: rest) story = (.ok (), kept)) :
    (story.hasSection id = false ∧ restore E rest story = (.ok (), kept)) ∨
    (story.hasSection id = true ∧ ∃ stage,
      putPrivates E id progress.vars story.stage = (.ok (), stage) ∧
      restore E rest { story with
        sections := story.sections.modify id (Section.withProgress progress), stage } =
          (.ok (), kept)) := by
  cases hknown : story.hasSection id with
  | false => exact .inl ⟨rfl, (restore_unknown hknown).symm.trans h⟩
  | true =>
    obtain ⟨result, stage, hput⟩ :
        ∃ result stage, putPrivates E id progress.vars story.stage = (result, stage) :=
      ⟨_, _, rfl⟩
    rw [restore_known hknown hput] at h
    cases result with
    | ok u => exact .inr ⟨rfl, stage, hput, h⟩
    | error fault => cases h

/-- A restore that succeeds puts back the progress of every section that the story has. -/
theorem restore_ok {progress : Fields Progress} {kept : Story σ}
    (h : restore E progress story = (.ok (), kept)) :
    kept.sections = restored progress story.sections := by
  induction progress generalizing story with
  | nil => cases h; rfl
  | cons entry rest ih =>
    obtain ⟨id, progress⟩ := entry
    obtain ⟨hknown, h⟩ | ⟨-, stage, -, h⟩ := restore_cons_ok h
    · rw [ih h, restored, restored, List.foldl_cons, Fields.modify_absent hknown]
    · exact ih h

/-- With one entry for each id, restoring reads like this. -/
theorem find?_restored (id : String) {progress : Fields Progress} (hn : progress.names.Nodup)
    (sections : Fields Section) :
    (restored progress sections).find? id = (sections.find? id).map fun s =>
      match progress.find? id with
      | some progress => s.withProgress progress
      | none => s := by
  induction progress generalizing sections with
  | nil => simp [restored]
  | cons entry rest ih =>
    obtain ⟨key, progress⟩ := entry
    obtain ⟨hkey, hrest⟩ := List.nodup_cons.mp hn
    rw [restored, List.foldl_cons, ← restored, ih hrest, Fields.find?_modify, Fields.find?_cons]
    by_cases hk : id = key
    · subst hk
      rw [if_pos rfl, if_pos rfl, Fields.find?_eq_none_iff.mpr hkey, Option.map_map]
      rfl
    · rw [if_neg hk, if_neg (Ne.symm hk)]

/-- A save holds the progress of the sections that were entered. -/
theorem find?_progress (E : Engine σ) (hn : story.sections.names.Nodup) (id : String) :
    (story.progress E).find? id =
      ((story.section? id).filter (fun s => s.visits != 0)).map fun s =>
        s.progress (Stage.privates E id story.stage) := by
  have hmapped := Fields.names_mapped
    (fun id (s : Section) => s.progress (Stage.privates E id story.stage))
    (story.sections.filter (fun entry => entry.2.visits != 0))
  have hfind := Fields.find?_mapped
    (fun id (s : Section) => s.progress (Stage.privates E id story.stage)) id
    (story.sections.filter (fun entry => entry.2.visits != 0))
  rw [Fields.find?_filter (fun s => s.visits != 0) id hn] at hfind
  refine (Fields.find?_sorted id ?_).trans hfind
  exact hmapped ▸ Fields.nodup_names_filter hn _

end Story

/-! ## Going on from a save -/

namespace Session

/-- Sections are put back by a visit, or by a restore that binds the saved section. -/
theorem restoreSections_ok {save : Save} {story entered : Story σ}
    (h : restoreSections E save story = (.ok (), entered)) :
    (save.sections = [] ∧ ∃ s, story.section? save.sectionId = some s ∧
      entered = (story.visit E save.sectionId).2) ∨
    (save.sections ≠ [] ∧ ∃ kept s, Story.restore E save.sections story = (.ok (), kept) ∧
      kept.section? save.sectionId = some s ∧
      entered = { kept with stage := s.rebind E kept.stage }) := by
  unfold restoreSections at h
  split at h
  · next hempty =>
    refine .inl ⟨List.isEmpty_iff.mp hempty, ?_⟩
    cases hs : story.section? save.sectionId with
    | none =>
      rw [Story.visit_unknown hs] at h
      cases h
    | some s => exact ⟨s, rfl, by rw [h]⟩
  · next hfull =>
    refine .inr ⟨fun hnil => hfull (by rw [hnil]; rfl), ?_⟩
    split at h
    · cases h
    · next kept hrestore =>
      cases hs : kept.section? save.sectionId with
      | none =>
        rw [Story.rebind_unknown hs] at h
        cases h
      | some s =>
        rw [Story.rebind_known hs] at h
        cases h
        exact ⟨kept, s, hrestore, hs, rfl⟩

/-- A session that goes on from a save: its story was loaded, its sections put back, then its
variables, then its dice. -/
theorem resume_ok {source : Source σ} {save : Save} {session : Session σ}
    (h : resume E source save = .ok session) :
    save.schema = Save.currentSchema ∧ ∃ story entered written,
      source.load E = .ok story ∧ restoreSections E save story = (.ok (), entered) ∧
      entered.putBack E save.globals = (.ok (), written) ∧
      session = ⟨source, restoreDice E save written, save.sectionId⟩ := by
  unfold resume at h
  split at h
  · cases h
  · next hschema =>
    refine ⟨Decidable.not_not.mp hschema, ?_⟩
    obtain ⟨story, hload, h⟩ := bind_ok h
    split at h
    · cases h
    · next entered hentered =>
      split at h
      · cases h
      · next written hwritten =>
        cases h
        exact ⟨story, entered, written, hload, hentered, hwritten, rfl⟩

theorem restoreDice_eq (E : Engine σ) (save : Save) (story : Story σ) :
    ∃ stage, restoreDice E save story = { story with stage } ∧
      stage.bound = story.stage.bound := by
  unfold restoreDice
  split
  · exact ⟨_, rfl, rfl⟩
  · exact ⟨story.stage, rfl, rfl⟩

end Session

end Gamebook
