import Gamebook.Proofs.Calls
import Gamebook.Proofs.Story.Operations
import Gamebook.Script.Interpreter
import Mathlib.Data.List.DropRight

/-!
# How often a section was entered

The visit count of a section is the library's own: scripts see a copy of it among the private
variables, and nothing reads that copy back. So in any history of a story the count is the one right
after the last restore that names the section, or none at the beginning, and one more for each visit
since, up to the greatest count.

A visit counts first. Its new count stands in what is written for the section before its code runs.

* `Story.Action`, `Story.act`, `Story.actAll` : what a host does with a story.
* `Story.visitsOf_act`, `Story.visitsOf_actAll` : one action, and a run of actions.
* `Section.enter_recording` : the calls of a visit.
* `Story.CountsFrom`, `Story.CountsFirst` : what a count begins with, and what a visit does first.
* `Story.visits_counted` : the law of the counts.
-/

namespace Gamebook

open Script

variable {σ : Type} {E : Engine σ}

/-! ## The calls of a visit -/

/-- A stage whose engine records its calls from now on. -/
def Stage.recording (st : Stage σ) : Stage (Recorded σ) := ⟨⟨st.engine, []⟩, st.bound⟩

/-- The calls that bind a section with some private variables. -/
def Section.bindingCalls (s : Section) (fields : Variables) : List EngineCall :=
  [.write Stage.scratchName (.record []), .write (sectionNamespace s.id) (.record fields),
    .write Stage.aliasName (.record fields)]

/-- Binding a section takes three calls; what is written for the section has its visit count. -/
theorem Section.rebind_recording (s : Section) (st : Stage σ) :
    ∃ fields, Fields.find? Stage.visitsName fields = some (.int (Int64.ofNat s.visits.toNat)) ∧
      s.rebind E.recording st.recording =
        ⟨⟨(s.rebind E st).engine, s.bindingCalls fields⟩, some s.id⟩ := by
  refine ⟨(Stage.privates E s.id (Stage.resetScratch E st)).insert Stage.visitsName
    (.int (Int64.ofNat s.visits.toNat)), ?_, rfl⟩
  rw [Fields.find?_insert, if_pos rfl]

/-- Copying the alias back takes one more call at most. -/
theorem Stage.commit_recording (r : Recorded σ) (bound : Option String) :
    ∃ later, (commit E.recording ⟨r, bound⟩).engine =
      ⟨(commit E ⟨r.state, bound⟩).engine, r.calls ++ later⟩ := by
  have hunchanged : ∃ later, r = ⟨r.state, r.calls ++ later⟩ := ⟨[], by rw [List.append_nil]⟩
  cases bound with
  | none => exact hunchanged
  | some sectionId =>
    have hread : valueOf E.recording aliasName ⟨r, some sectionId⟩ =
        valueOf E aliasName ⟨r.state, some sectionId⟩ := rfl
    simp only [commit, hread]
    split
    · exact ⟨_, rfl⟩
    · exact hunchanged

/-- Running code begins with its execution. -/
theorem Stage.run_recording (code : String) (r : Recorded σ) (bound : Option String) :
    ∃ later, (run E.recording code ⟨r, bound⟩).2.engine =
      ⟨(run E code ⟨r.state, bound⟩).2.engine, r.calls ++ .execute code :: later⟩ := by
  obtain ⟨later, hcommit⟩ := commit_recording (E := E)
    ⟨(E.execute code r.state).2, r.calls ++ [.execute code]⟩ bound
  refine ⟨later, hcommit.trans ?_⟩
  rw [List.append_assoc, List.singleton_append]
  rfl

/-- Entering a section binds it first; then its code runs, if it has any. -/
theorem Section.enter_recording (s : Section) (st : Stage σ) :
    ∃ fields later, Fields.find? Stage.visitsName fields =
        some (.int (Int64.ofNat s.visits.toNat)) ∧
      (s.enter E.recording st.recording).engine =
        ⟨(s.enter E st).engine, s.bindingCalls fields ++ later⟩ ∧
      later.head? = s.run.map EngineCall.execute := by
  obtain ⟨fields, hvisits, hrebind⟩ := s.rebind_recording (E := E) st
  rw [enter_eq, enter_eq, hrebind]
  cases s.run with
  | none => exact ⟨fields, [], hvisits, by rw [List.append_nil]; rfl, rfl⟩
  | some code =>
    obtain ⟨later, hrun⟩ := Stage.run_recording (E := E) code
      ⟨(s.rebind E st).engine, s.bindingCalls fields⟩ (some s.id)
    exact ⟨fields, .execute code :: later, hvisits, hrun, rfl⟩

namespace Story

/-! ## Histories -/

/-- What a host does with a story: play, and putting back what a save holds. -/
inductive Action where
  | play (operation : Operation)
  | putBack (state : Variables)
  | setDice (dice : UInt32)
  | restore (progress : Fields Progress)

/-- The story after an action, whether the action has succeeded or not. -/
def act (E : Engine σ) (story : Story σ) : Action → Story σ
  | .play operation => story.perform E operation
  | .putBack state => (story.putBack E state).2
  | .setDice dice => story.setDice E dice
  | .restore progress => (restore E progress story).2

/-- The story after actions. -/
def actAll (E : Engine σ) (story : Story σ) (history : List Action) : Story σ :=
  history.foldl (act E) story

theorem actAll_append (story : Story σ) (earlier later : List Action) :
    story.actAll E (earlier ++ later) = (story.actAll E earlier).actAll E later :=
  List.foldl_append

/-- The action is a visit of the section. -/
def Action.visits (id : String) : Action → Bool
  | .play (.visit other) => other == id
  | _ => false

/-- The action is a restore that names the section. -/
def Action.restores (id : String) : Action → Bool
  | .restore progress => progress.has id
  | _ => false

/-- The history up to the last restore that names the section; nothing if there is none. -/
def untilRestore (id : String) (history : List Action) : List Action :=
  history.rdropWhile fun action => !action.restores id

/-- The history after the last restore that names the section. -/
def sinceRestore (id : String) (history : List Action) : List Action :=
  history.rtakeWhile fun action => !action.restores id

variable {story : Story σ} {id : String}

/-! ## Restores -/

/-- A restore that does not name the section leaves its count alone. -/
theorem visitsOf_restore_of_not_mem {progress : Fields Progress} (h : id ∉ progress.names)
    (story : Story σ) : (restore E progress story).2.visitsOf id = story.visitsOf id := by
  induction progress generalizing story with
  | nil => rfl
  | cons entry rest ih =>
    obtain ⟨key, progress⟩ := entry
    rw [Fields.names_cons, List.mem_cons, not_or] at h
    cases hknown : story.hasSection key with
    | false => rw [restore_unknown hknown, ih h.2]
    | true =>
      have hkept (stage : Stage σ) : visitsOf id { story with
          sections := story.sections.modify key (Section.withProgress progress), stage } =
          story.visitsOf id := by
        rw [visitsOf_modify, if_neg h.1]
      rw [restore_known hknown rfl]
      split
      · rw [ih h.2, hkept]
      · exact hkept _

/-- A restore that succeeds gives every section that it names the count that it holds. -/
theorem visitsOf_restore_ok {progress : Fields Progress} {kept : Story σ}
    (h : restore E progress story = (.ok (), kept)) (hn : progress.names.Nodup) {entry : Progress}
    (hentry : progress.find? id = some entry) (hid : story.hasSection id = true) :
    kept.visitsOf id = some entry.visits := by
  obtain ⟨s, hs⟩ := hasSection_iff.mp hid
  rw [visitsOf, section?, restore_ok h, find?_restored id hn, hentry]
  rw [show story.sections.find? id = some s from hs]
  rfl

/-! ## One action and many -/

/-- An operation counts a visit of the section only if it is one. -/
theorem Performed.visitsOf_of_ne {operation : Operation} {after : Story σ}
    (hperformed : Performed E story operation after) (h : operation ≠ .visit id) :
    after.visitsOf id = story.visitsOf id := by
  cases hperformed with
  | missed => rfl
  | shown => rfl
  | @visited other s hs =>
    rw [visitsOf_modify, if_neg]
    rintro rfl
    exact h rfl
  | rebound => rfl
  | @executed other => exact visitsOf_spend story _ other _ id
  | triggered => rfl

/-- A visit adds one to the count, if there is such a section. -/
theorem visitsOf_perform_visit (E : Engine σ) (story : Story σ) (id : String) :
    (story.perform E (.visit id)).visitsOf id = (story.visitsOf id).map Section.nextVisit := by
  cases hs : story.section? id with
  | none =>
    have hmisses : story.Misses (.visit id) := hs
    rw [perform_misses hmisses, visitsOf, hs]
    rfl
  | some s => rw [perform, visitsOf_visit hs, if_pos rfl]

/-- An action that restores nothing for the section adds one to its count if it is a visit, and
leaves it alone if it is not. -/
theorem visitsOf_act {action : Action} (h : action.restores id = false) (story : Story σ) :
    (story.act E action).visitsOf id =
      (story.visitsOf id).map fun c => if action.visits id then Section.nextVisit c else c := by
  cases action with
  | play operation =>
    by_cases hvisit : operation = .visit id
    · subst hvisit
      rw [act, visitsOf_perform_visit]
      simp [Action.visits]
    · have hother : (Action.play operation).visits id = false := by
        cases operation <;> simp_all [Action.visits]
      rw [act, (performed E story operation).visitsOf_of_ne hvisit]
      simp [hother]
  | putBack state =>
    obtain ⟨result, stage, hput, -⟩ := putBack_eq E state story
    rw [act, hput]
    exact Option.map_id'.symm
  | setDice dice => exact Option.map_id'.symm
  | restore progress =>
    have hnames : id ∉ progress.names := by
      rw [← Fields.has_iff]
      simpa [Action.restores] using h
    rw [act, visitsOf_restore_of_not_mem hnames]
    exact Option.map_id'.symm

/-- A history without a restore of the section adds its visits to the count, up to the greatest
count. -/
theorem visitsOf_actAll {history : List Action}
    (h : ∀ action ∈ history, action.restores id = false) {story : Story σ} {c : UInt32}
    (hc : story.visitsOf id = some c) :
    ∃ v, (story.actAll E history).visitsOf id = some v ∧
      v.toNat = min 4294967295 (c.toNat + history.countP (Action.visits id)) := by
  induction history generalizing story c with
  | nil =>
    have hlt : c.toNat < 4294967296 := c.toNat_lt
    refine ⟨c, hc, ?_⟩
    rw [List.countP_nil]
    omega
  | cons action rest ih =>
    have hstep := visitsOf_act (E := E) (h action List.mem_cons_self) story
    rw [hc, Option.map_some] at hstep
    obtain ⟨v, hv, hcount⟩ := ih (fun other hmem => h other (List.mem_cons_of_mem _ hmem)) hstep
    refine ⟨v, hv, ?_⟩
    rw [hcount, List.countP_cons]
    split
    · rw [Section.toNat_nextVisit]
      omega
    · omega

/-- Actions change the progress in sections and the stage, and nothing else. -/
theorem sameBook_actAll (E : Engine σ) (story : Story σ) (history : List Action) :
    SameBook story (story.actAll E history) := by
  induction history generalizing story with
  | nil => exact .refl story
  | cons action rest ih =>
    refine SameBook.trans ?_ (ih (story.act E action))
    cases action with
    | play operation => exact sameBook_perform E story operation
    | putBack state => exact .on_stage story _
    | setDice dice => exact .on_stage story _
    | restore progress => exact (restore_keeps E progress story).1

/-! ## Loaded stories -/

theorem visitsOf_isSome (h : story.hasSection id = true) : ∃ c, story.visitsOf id = some c := by
  obtain ⟨s, hs⟩ := hasSection_iff.mp h
  exact ⟨s.visits, by rw [visitsOf, hs, Option.map_some]⟩

theorem restores_sinceRestore {history : List Action} {action : Action}
    (h : action ∈ sinceRestore id history) : action.restores id = false := by
  simpa using List.mem_rtakeWhile_imp h

/-- A history up to the last restore that names a section is empty or ends with that restore. -/
theorem untilRestore_cases (id : String) (history : List Action) :
    untilRestore id history = [] ∨ ∃ earlier progress,
      untilRestore id history = earlier ++ [.restore progress] ∧ progress.has id = true := by
  by_cases hnil : untilRestore id history = []
  · exact .inl hnil
  · have hlast : ((untilRestore id history).getLast hnil).restores id = true := by
      have hnot := List.rdropWhile_last_not (fun action : Action => !action.restores id) history
        hnil
      rwa [Bool.not_eq_true, Bool.not_eq_false'] at hnot
    have hsplit := List.dropLast_append_getLast hnil
    cases hrestore : (untilRestore id history).getLast hnil with
    | restore progress =>
      rw [hrestore] at hlast hsplit
      exact .inr ⟨_, progress, hsplit.symm, hlast⟩
    | play | putBack | setDice =>
      rw [hrestore] at hlast
      cases hlast

/-- What the count of a section is counted from: it begins with none, and a restore that succeeds
gives it the count that it holds. -/
structure CountsFrom (E : Engine σ) (story : Story σ) (id : String) (history : List Action)
    (c : UInt32) : Prop where
  after : (story.actAll E (untilRestore id history)).visitsOf id = some c
  base : (untilRestore id history = [] ∧ c = 0) ∨ ∃ earlier progress,
    untilRestore id history = earlier ++ [.restore progress] ∧ progress.has id = true ∧
    ((restore E progress (story.actAll E earlier)).1 = .ok () → progress.names.Nodup →
      (progress.find? id).map Progress.visits = some c)

theorem countsFrom {document : Document} {engine : σ} {story : Story σ}
    (hload : (load E document engine).1 = .ok story) (history : List Action) {id : String}
    (hid : story.hasSection id = true) : ∃ c, CountsFrom E story id history c := by
  have hknown (actions : List Action) : (story.actAll E actions).hasSection id = true :=
    ((sameBook_actAll E story actions).hasSection id).trans hid
  obtain ⟨c, hc⟩ := visitsOf_isSome (hknown (untilRestore id history))
  refine ⟨c, hc, ?_⟩
  obtain hnil | ⟨earlier, progress, hsplit, hnames⟩ := untilRestore_cases id history
  · rw [hnil] at hc
    obtain ⟨loaded, -, rfl⟩ := load_ok hload
    obtain ⟨s, hs, rfl⟩ := Option.map_eq_some_iff.mp hc
    exact .inl ⟨hnil, unvisited_ofDocument document loaded hs⟩
  · refine .inr ⟨earlier, progress, hsplit, hnames, fun hok hn => ?_⟩
    rw [hsplit, actAll_append] at hc
    obtain ⟨entry, hentry⟩ := Option.isSome_iff_exists.mp hnames
    have hkept := visitsOf_restore_ok (Prod.ext hok rfl) hn hentry (hknown earlier)
    rw [hentry, Option.map_some, ← hkept]
    exact hc

/-- The next visit of a section counts first: its calls empty the scratch record and give namespace
and alias private variables with the new count, and only then the code of the section runs. -/
structure CountsFirst (E : Engine σ) (story : Story σ) (id : String) (s : Section) : Prop where
  counted : s.counted.visits.toNat = min 4294967295 (s.visits.toNat + 1)
  entered : story.visit E id = (.ok (), { story with
    sections := story.sections.modify id Section.counted
    stage := s.counted.enter E story.stage })
  calls : ∃ fields later,
    Fields.find? "visits" fields = some (.int (Int64.ofNat s.counted.visits.toNat)) ∧
    (s.counted.enter E.recording story.stage.recording).engine =
      ⟨(s.counted.enter E story.stage).engine,
        [.write "temp" (.record []), .write (sectionNamespace id) (.record fields),
          .write "s" (.record fields)] ++ later⟩ ∧
    later.head? = s.run.map EngineCall.execute

theorem countsFirst (E : Engine σ) {s : Section} (hs : story.section? id = some s)
    (hid : s.id = id) : CountsFirst E story id s where
  counted := Section.toNat_nextVisit s.visits
  entered := visit_known hs
  calls := by
    obtain ⟨fields, later, hvisits, henter, hlater⟩ :=
      s.counted.enter_recording (E := E) story.stage
    refine ⟨fields, later, hvisits, ?_, hlater⟩
    rw [henter, Section.bindingCalls, Section.id_counted, hid]
    rfl

/-- In a loaded story the count of a section is the one right after the last restore that names it,
or none if there was no such restore, and one more for each visit since, up to the greatest count,
whatever the engine does. The next visit counts before anything else. -/
theorem visits_counted {document : Document} {engine : σ} {story : Story σ}
    (hload : (load E document engine).1 = .ok story) (history : List Action) {id : String}
    (hid : story.hasSection id = true) :
    ∃ c s, CountsFrom E story id history c ∧
      (story.actAll E history).section? id = some s ∧
      s.visits.toNat =
        min 4294967295 (c.toNat + (sinceRestore id history).countP (Action.visits id)) ∧
      CountsFirst E (story.actAll E history) id s := by
  obtain ⟨c, hfrom⟩ := countsFrom hload history hid
  have hbook := sameBook_actAll E story history
  obtain ⟨s, hs⟩ := hasSection_iff.mp ((hbook.hasSection id).trans hid)
  have hkeyed : story.Keyed := by
    obtain ⟨loaded, -, rfl⟩ := load_ok hload
    exact keyed_ofDocument document loaded
  refine ⟨c, s, hfrom, hs, ?_, countsFirst E hs (hbook.keyed hkeyed id s hs)⟩
  -- the history is cut at the last restore, so that only visits change the count behind the cut
  obtain ⟨v, hv, hcount⟩ := visitsOf_actAll (fun _ => restores_sinceRestore) hfrom.after
  rw [← actAll_append, untilRestore, sinceRestore, List.rdropWhile_append_rtakeWhile, visitsOf,
    hs] at hv
  cases hv
  exact hcount

/-- A hall whose code makes light of its visits. -/
def modestHall : Source Interpreter :=
  ⟨"sections: \x7bhall: \x7brun: s.visits = 0;\x7d\x7d", .seeded 1⟩

/-- A visit, a restore just below the greatest count, and two visits with a look at the text. -/
def modestHistory : List Action :=
  [.play (.visit "hall"), .restore [("hall", ⟨4294967294, [], []⟩)], .play (.visit "hall"),
    .play (.text "hall"), .play (.visit "hall")]

/-- The hall has the greatest count in the end. -/
theorem visits_counted_modestHall :
    ∃ document story s, Document.ofText modestHall.text = .ok document ∧
      (load Script.engine document modestHall.engine).1 = .ok story ∧
      (story.actAll Script.engine modestHistory).section? "hall" = some s ∧
      s.visits.toNat = min 4294967295 (4294967294 + 2) := by
  have htest : ((modestHall.opened? Script.engine).any fun opened =>
      opened.2.hasSection "hall" &&
      (opened.2.actAll Script.engine (untilRestore "hall" modestHistory)).visitsOf "hall" ==
        some 4294967294) = true := by
    decide +kernel
  obtain ⟨⟨document, story⟩, hopened, htest⟩ := (Option.any_eq_true ..).mp htest
  obtain ⟨hdocument, hload⟩ := Source.opened?_eq_some hopened
  rw [Bool.and_eq_true, beq_iff_eq] at htest
  obtain ⟨hhall, hrestored⟩ := htest
  obtain ⟨c, s, hfrom, hs, hcount, -⟩ := visits_counted hload modestHistory hhall
  obtain rfl : c = 4294967294 := Option.some.inj (hfrom.after.symm.trans hrestored)
  exact ⟨document, story, s, hdocument, hload, hs, hcount⟩

end Story

end Gamebook
