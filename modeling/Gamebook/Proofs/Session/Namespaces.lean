import Gamebook.Proofs.Registering
import Gamebook.Proofs.Session.Resuming
import Gamebook.Proofs.Values

/-!
# Namespaces after going on from a save

The private variables of entered sections are saved with their progress. A section without private
variables is saved without them, and going on from such a save the section keeps the variables that
loading has given it: those that its document starts it with come back, although scripts had removed
them. All other records survive, as far as JSON text gives back the numbers in them; a namespace
that is no record survives only if the document declares a variable of its name.

* `Story.reads_restore` : what a namespace reads as after a restore.
* `Document.Keeps` : when a namespace survives.
* `Session.Plays.reads_resumed` : it survives exactly then.
-/

namespace Gamebook

variable {σ : Type} {E : Engine σ}

/-! ## Survival -/

/-- The namespace comes back as it was: its numbers do, and it has fields or is declared as a
variable; or it is empty, and the document gives it nothing but the visit count. -/
def Document.Keeps (document : Document) (name : String) (v : Value) : Prop :=
  (v.reread.SameButVisits v ∧
    (name ∈ document.vars.names ∨ ∃ field rest, v = .record (field :: rest))) ∨
  (v = .record [] ∧ ∀ vars, document.privatesOf name = some vars →
    ∀ key ∈ vars.names, key = Stage.visitsName)

namespace Document

variable {document : Document} {name : String} {v : Value} {field : String × Value}
  {rest vars : Variables}

theorem keeps_declared (hname : name ∈ document.vars.names) :
    document.Keeps name v ↔ v.reread.SameButVisits v := by
  refine ⟨?_, fun hsame => .inl ⟨hsame, .inl hname⟩⟩
  rintro (⟨hsame, -⟩ | ⟨rfl, -⟩)
  · exact hsame
  · exact Value.sameButVisits_of_canonical rfl

theorem keeps_record :
    document.Keeps name (.record (field :: rest)) ↔
      (Value.record (field :: rest)).reread.SameButVisits (.record (field :: rest)) := by
  refine ⟨?_, fun hsame => .inl ⟨hsame, .inr ⟨field, rest, rfl⟩⟩⟩
  rintro (⟨hsame, -⟩ | ⟨hnil, -⟩)
  · exact hsame
  · cases hnil

/-- What has no fields survives if the variables that the document gives it are the same. -/
theorem keeps_empty (hname : name ∉ document.vars.names)
    (hvars : document.privatesOf name = some vars)
    (hv : ∀ field rest, v ≠ .record (field :: rest)) :
    document.Keeps name v ↔ (Value.record (Fields.sorted vars)).SameButVisits v := by
  constructor
  · rintro (⟨-, hdeclared | ⟨field, rest, hfields⟩⟩ | ⟨rfl, hvisits⟩)
    · exact absurd hdeclared hname
    · exact absurd hfields (hv field rest)
    · exact Value.sameButVisits_empty.mpr (hvisits vars hvars)
  · intro hsame
    obtain ⟨fields, rfl⟩ := hsame.isRecord
    cases fields with
    | cons field rest => exact absurd rfl (hv field rest)
    | nil =>
      refine .inr ⟨rfl, fun others hothers => ?_⟩
      obtain rfl : vars = others := Option.some.inj (hvars.symm.trans hothers)
      exact Value.sameButVisits_empty.mp hsame

/-- Where all numbers come back, an undeclared record survives unless it was emptied of variables
that the document gives it. -/
theorem keeps_record_iff {fields : Variables} (hreturns : (Value.record fields).Returns)
    (hname : name ∉ document.vars.names) :
    document.Keeps name (.record fields) ↔ fields ≠ [] ∨
      ∀ vars, document.privatesOf name = some vars →
        ∀ key ∈ vars.names, key = Stage.visitsName := by
  have hsame := Value.sameButVisits_reread hreturns
  cases fields with
  | nil => simp [Keeps, hname]
  | cons field rest => simp [Keeps, hsame]

end Document

namespace Story

/-! ## Restored namespaces -/

section Stores

variable (hE : E.Stores) {id name : String} {vars : Variables}
include hE

theorem reads_putPrivates {st after : Stage σ}
    (h : putPrivates E id vars st = (.ok (), after)) (hvars : vars ≠ []) :
    Stage.reads E (sectionNamespace id) after = .ok (.record vars) := by
  unfold putPrivates at h
  rw [if_neg (by simp [hvars])] at h
  exact Stage.reads_write hE.recalls h

theorem reads_putPrivates_of_ne {st after : Stage σ}
    (h : putPrivates E id vars st = (.ok (), after)) (hne : name ≠ sectionNamespace id) :
    Stage.reads E name after = Stage.reads E name st := by
  unfold putPrivates at h
  split at h
  · cases h
    rfl
  · have hother := Stage.reads_write_of_ne hE.recalls hne (.record vars) st
    rwa [h] at hother

/-- A namespace for which nothing is saved keeps what it holds. -/
theorem reads_restore_empty {progress : Fields Progress} {story kept : Story σ}
    (h : restore E progress story = (.ok (), kept))
    (hempty : ∀ entry ∈ progress, sectionNamespace entry.1 = name → entry.2.vars = []) :
    Stage.reads E name kept.stage = Stage.reads E name story.stage := by
  induction progress generalizing story with
  | nil =>
    cases h
    rfl
  | cons entry rest ih =>
    obtain ⟨id, progress⟩ := entry
    have hrest := fun entry hmem => hempty entry (List.mem_cons_of_mem _ hmem)
    obtain ⟨-, h⟩ | ⟨-, stage, hput, h⟩ := restore_cons_ok h
    · exact ih h hrest
    · refine (ih h hrest).trans ?_
      by_cases hname : sectionNamespace id = name
      · have hnone : progress.vars = [] := hempty _ List.mem_cons_self hname
        rw [hnone] at hput
        cases hput
        rfl
      · exact reads_putPrivates_of_ne hE hput (Ne.symm hname)

/-- A namespace for which the same variables are saved wherever it occurs holds these variables. -/
theorem reads_restore {progress : Fields Progress} {story kept : Story σ}
    (h : restore E progress story = (.ok (), kept)) (hfull : vars ≠ [])
    (hsame : ∀ entry ∈ progress, sectionNamespace entry.1 = name → entry.2.vars = vars)
    (hsome : Stage.reads E name story.stage = .ok (.record vars) ∨
      ∃ entry ∈ progress, sectionNamespace entry.1 = name ∧ story.hasSection entry.1 = true) :
    Stage.reads E name kept.stage = .ok (.record vars) := by
  -- once the variables are there, every later entry leaves them there
  induction progress generalizing story with
  | nil =>
    cases h
    exact hsome.resolve_right (by simp)
  | cons entry rest ih =>
    obtain ⟨id, progress⟩ := entry
    have hrest := fun entry hmem => hsame entry (List.mem_cons_of_mem _ hmem)
    obtain ⟨hunknown, h⟩ | ⟨hknown, stage, hput, h⟩ := restore_cons_ok h
    · refine ih h hrest (hsome.imp_right ?_)
      rintro ⟨entry, hmem, hname, hhas⟩
      rcases List.mem_cons.mp hmem with rfl | hmem
      · rw [hunknown] at hhas
        cases hhas
      · exact ⟨entry, hmem, hname, hhas⟩
    · refine ih h hrest ?_
      by_cases hname : sectionNamespace id = name
      · have hvars : progress.vars = vars := hsame _ List.mem_cons_self hname
        rw [hvars] at hput
        exact .inl (hname ▸ reads_putPrivates hE hput hfull)
      · refine hsome.imp (reads_putPrivates_of_ne hE hput (Ne.symm hname)).trans ?_
        rintro ⟨entry, hmem, hentry, hhas⟩
        rcases List.mem_cons.mp hmem with rfl | hmem
        · exact absurd hentry hname
        · refine ⟨entry, hmem, hentry, ?_⟩
          rw [hasSection] at hhas ⊢
          rw [Fields.has_modify]
          exact hhas

end Stores

end Story

/-- Binding a section changes nothing in a namespace but the visit count. -/
theorem Section.reads_rebind (hE : E.Stores) (s : Section) {st : Stage σ} {sectionId : String}
    {fields : Variables}
    (h : Stage.reads E (sectionNamespace sectionId) st = .ok (.record fields)) :
    ∃ after, Stage.reads E (sectionNamespace sectionId) (s.rebind E st) = .ok after ∧
      ∀ v, after.SameButVisits v ↔ (Value.record fields).SameButVisits v := by
  have hreset : Stage.reads E (sectionNamespace sectionId) (Stage.resetScratch E st) =
      .ok (.record fields) :=
    (Stage.reads_put_of_ne hE.recalls (sectionNamespace_ne_scratch sectionId) _ st).trans h
  by_cases hname : sectionNamespace sectionId = sectionNamespace s.id
  · rw [hname] at hreset ⊢
    rcases Stage.reads_bindSection hE s.id s.visits hreset with hnoted | hkept
    · exact ⟨_, hnoted, Value.sameButVisits_noted _ fields⟩
    · exact ⟨_, hkept, fun _ => Iff.rfl⟩
  · refine ⟨_, (Stage.reads_bindSection_of_ne hE.recalls s.id s.visits hname
      (sectionNamespace_ne_alias sectionId) _).trans hreset, fun _ => Iff.rfl⟩

namespace Session

variable {text : String} {document : Document} {session : Session σ}

/-! ## Saved variables -/

/-- What the text of a save holds of the declared variables. -/
theorem find?_globals (E : Engine σ) (session : Session σ) (name : String) :
    (session.save E).reread.globals.find? name =
      if name ∈ session.story.roster then
        some (Stage.valueOf E name session.story.stage).reread
      else none := by
  have hascending : Fields.Ascending (session.story.snapshot E) := Fields.ascending_sorted _
  change Fields.find? name (Json.rereadVariables (session.story.snapshot E)) = _
  rw [Json.rereadVariables, Value.rereadFields_eq_map, Fields.sorted_map,
    Fields.sorted_of_ascending hascending, Fields.find?_mapped (fun _ => Value.reread),
    Story.find?_snapshot]
  split <;> rfl

/-- The text of a save holds the same variables for all sections that share a namespace. -/
theorem vars_reread (h : session.Plays text document) {id : String} {entry : String × Progress}
    (hmem : entry ∈ (session.save E).reread.sections)
    (hname : sectionNamespace entry.1 = sectionNamespace id) :
    entry.2.vars = Json.rereadVariables (Stage.privates E id session.story.stage) := by
  have hfind := Fields.find?_of_mem (nodup_saved E session) hmem
  rw [find?_reread E session h.names_nodup, Option.map_eq_some_iff] at hfind
  obtain ⟨s, -, hentry⟩ := hfind
  rw [← hentry, Stage.privates, Stage.privates, hname]
  rfl

/-! ## Namespaces -/

section Stores

variable (h : session.Plays text document) (hE : E.Stores) {engine loaded : σ} {kept : Story σ}
  (hkept : Story.restore E (session.save E).reread.sections
    (Story.ofDocument document loaded) = (.ok (), kept))
  {id : String} {s : Section} (hs : session.story.section? id = some s)
include h hE hkept hs

/-- Private variables that an entered section has come back with its progress. -/
theorem Plays.reads_kept_record (hvisited : s.visits ≠ 0) {field : String × Value}
    {rest : Variables} (hv : Stage.reads E (sectionNamespace id) session.story.stage =
      .ok (.record (field :: rest))) :
    Stage.reads E (sectionNamespace id) kept.stage =
      .ok (Value.record (field :: rest)).reread := by
  obtain ⟨spec, hspec, -⟩ := h.story.spec hs
  have hprivates := Stage.privates_reads hv
  have hfull : Json.rereadVariables (field :: rest) ≠ [] :=
    Fields.sorted_ne_nil (by rw [Value.rereadFields_eq_map]; simp)
  refine Story.reads_restore hE hkept hfull (fun entry hmem hname => ?_) (.inr ?_)
  · rw [vars_reread h hmem hname, hprivates]
    rfl
  · have hentry := find?_reread E session h.names_nodup id
    rw [hs, Option.filter_some, if_pos (by simp [hvisited])] at hentry
    refine ⟨_, Fields.mem_of_find? hentry, rfl,
      Story.hasSection_iff.mpr ⟨Section.ofSpec id spec, ?_⟩⟩
    rw [Story.section?_ofDocument, hspec]
    rfl

variable (hregister : Story.register E document engine = (.ok (), loaded))
include hregister

/-- A namespace without private variables holds those of the document again. -/
theorem Plays.reads_kept_empty (hnone : Stage.privates E id session.story.stage = []) :
    ∃ vars, document.privatesOf (sectionNamespace id) = some vars ∧
      Stage.reads E (sectionNamespace id) kept.stage = .ok (.record (Fields.sorted vars)) := by
  obtain ⟨spec, hspec, -⟩ := h.story.spec hs
  have hsome := Document.privatesOf_isSome (Fields.mem_of_find? hspec)
  obtain ⟨vars, hvars⟩ := Option.isSome_iff_exists.mp hsome
  refine ⟨vars, hvars, ?_⟩
  rw [Story.reads_restore_empty hE hkept]
  · exact Story.reads_registered hE.recalls hregister hvars
  · intro entry hmem hname
    rw [vars_reread h hmem hname, hnone]
    rfl

/-- Restoring an undeclared namespace makes it a record, the same as before if it is kept. -/
theorem Plays.reads_kept (hvisited : s.visits ≠ 0)
    (hname : sectionNamespace id ∉ document.vars.names) {v : Value}
    (hv : Stage.reads E (sectionNamespace id) session.story.stage = .ok v) :
    ∃ fields, Stage.reads E (sectionNamespace id) kept.stage = .ok (.record fields) ∧
      ((Value.record fields).SameButVisits v ↔ document.Keeps (sectionNamespace id) v) := by
  by_cases hfields : ∃ field rest, v = .record (field :: rest)
  · obtain ⟨field, rest, rfl⟩ := hfields
    exact ⟨_, h.reads_kept_record hE hkept hs hvisited hv,
      Document.keeps_record.symm⟩
  · have hempty : ∀ field rest, v ≠ .record (field :: rest) :=
      fun field rest heq => hfields ⟨field, rest, heq⟩
    obtain ⟨vars, hvars, hreads⟩ := h.reads_kept_empty hE hkept hs hregister
      (Stage.privates_empty hv hempty)
    exact ⟨_, hreads, (Document.keeps_empty hname hvars hempty).symm⟩

end Stores

/-- The declared variables of a session are those of its document. -/
theorem Plays.roster_eq (h : session.Plays text document) :
    session.story.roster = document.vars.names := by
  obtain ⟨engine, hbook⟩ := h.story.book
  exact hbook.roster

/-- Going on from the text of its own save, a session reads the namespace of an entered section as
the same private variables exactly if the document keeps them. -/
theorem Plays.reads_resumed (h : session.Plays text document) (hE : E.Stores) {id : String}
    {s : Section} (hs : session.story.section? id = some s) (hvisited : s.visits ≠ 0) {v : Value}
    (hv : Stage.reads E (sectionNamespace id) session.story.stage = .ok v)
    {engines : Engines σ} {written : String} {save : Save} {resumed : Session σ}
    (hw : (session.save E).WrittenAs written) (hread : Save.ofText written = .ok save)
    (hresume : resume E ⟨text, engines⟩ save = .ok resumed) :
    ∃ after, Stage.reads E (sectionNamespace id) resumed.story.stage = .ok after ∧
      (after.SameButVisits v ↔ document.Keeps (sectionNamespace id) v) := by
  obtain ⟨rfl, loaded, kept, s', stage, hregister, hkept, -, hput, rfl⟩ :=
    h.resume_ok hw hread hresume
  have hroster : kept.roster = document.vars.names := (Story.sameBook_restore hkept).roster
  have hsaved := find?_globals E session (sectionNamespace id)
  rw [h.roster_eq] at hsaved
  simp only [reads_restoreDice hE]
  by_cases hname : sectionNamespace id ∈ document.vars.names
  · -- a declared variable is put back at the end
    rw [if_pos hname, Stage.valueOf_reads hv] at hsaved
    exact ⟨v.reread, Story.reads_putBackOf hE hput (hroster ▸ hname) hsaved,
      (Document.keeps_declared hname).symm⟩
  · rw [if_neg hname] at hsaved
    obtain ⟨fields, hfields, hkeeps⟩ := h.reads_kept hE hkept hs hregister hvisited hname hv
    obtain ⟨after, hafter, hsame⟩ := s'.reads_rebind hE hfields
    refine ⟨after, ?_, (hsame v).trans hkeeps⟩
    exact (Story.reads_putBackOf_absent hE hput fun _ => hsaved).trans hafter

/-- Going on from the text of a save, the namespace of an entered section holds the same private
variables as before exactly if the document keeps them; so an emptied namespace comes back with the
variables that the document starts it with. -/
theorem namespace_resumed {session resumed : Session Script.Interpreter}
    (hreached : Reached Script.engine text session)
    (hdocument : Document.ofText text = .ok document) {id : String} {s : Section}
    (hs : session.story.section? id = some s) (hvisited : s.visits ≠ 0) {v : Value}
    (hv : Script.engine.read (sectionNamespace id) session.story.stage.engine = .ok v)
    {engines : Engines Script.Interpreter} {written : String} {save : Save}
    (hw : (session.save Script.engine).WrittenAs written) (hread : Save.ofText written = .ok save)
    (hresume : resume Script.engine ⟨text, engines⟩ save = .ok resumed) :
    ∃ after, Script.engine.read (sectionNamespace id) resumed.story.stage.engine = .ok after ∧
      (after.SameButVisits v ↔ document.Keeps (sectionNamespace id) v) := by
  obtain ⟨document', hplays⟩ := hreached.plays
  obtain rfl : document' = document := Except.ok.inj (hplays.loaded.symm.trans hdocument)
  exact hplays.reads_resumed Script.engine_stores hs hvisited hv hw hread hresume

/-- A chest to which every visit adds coins. -/
def chest : Source Script.Interpreter :=
  ⟨"sections: \x7bchest: \x7bvars: \x7bcoins: 1\x7d, run: s.coins += 2\x7d\x7d", .seeded 1⟩

/-- The coins in the chest are the same after going on from the text of a save. -/
theorem namespace_resumed_chest :
    ∃ session save resumed v after, create Script.engine chest none = .ok session ∧
      Save.ofText (session.save Script.engine).toJson.compact = .ok save ∧
      resume Script.engine chest save = .ok resumed ∧
      Script.engine.read (sectionNamespace "chest") session.story.stage.engine = .ok v ∧
      Script.engine.read (sectionNamespace "chest") resumed.story.stage.engine = .ok after ∧
      after.SameButVisits v := by
  have hany : (beginAgain Script.engine chest).any (fun again =>
      (Stage.reads Script.engine (sectionNamespace "chest") again.1.story.stage).isOk &&
      (Stage.valueOf Script.engine (sectionNamespace "chest") again.1.story.stage).isNumberless &&
      !(Stage.privates Script.engine "chest" again.1.story.stage).isEmpty &&
      (again.1.story.visitsOf "chest").any (· != 0) && again.1.story.roster.isEmpty) = true := by
    decide +kernel
  obtain ⟨⟨session, save, resumed⟩, hagain, htest⟩ := (Option.any_eq_true ..).mp hany
  obtain ⟨hcreate, hread, hresume⟩ := beginAgain_eq_some hagain
  simp only [Bool.and_eq_true, Bool.not_eq_true', List.isEmpty_iff] at htest
  obtain ⟨⟨⟨⟨hok, hnumberless⟩, hfull⟩, hvisited⟩, hroster⟩ := htest
  obtain ⟨v, hv⟩ := ok_of_isOk hok
  rw [Stage.valueOf_reads hv] at hnumberless
  obtain ⟨field, rest, rfl⟩ : ∃ field rest, v = .record (field :: rest) := by
    refine Classical.byContradiction fun hnot => ?_
    rw [Stage.privates_empty hv fun field rest heq => hnot ⟨field, rest, heq⟩] at hfull
    cases hfull
  obtain ⟨visits, hvisits, hne⟩ := (Option.any_eq_true ..).mp hvisited
  obtain ⟨s, hs, rfl⟩ := Option.map_eq_some_iff.mp hvisits
  have hreached : Reached Script.engine chest.text session := .created hcreate
  obtain ⟨document, hplays⟩ := hreached.plays
  obtain ⟨after, hafter, hkeeps⟩ := namespace_resumed hreached hplays.loaded hs
    (by simpa using hne) hv (.inl rfl) hread hresume
  have hname : sectionNamespace "chest" ∉ document.vars.names := by
    rw [← hplays.roster_eq, hroster]
    exact List.not_mem_nil
  have hkept := (Document.keeps_record_iff (Value.returns_of_isNumberless hnumberless) hname).mpr
    (.inl (List.cons_ne_nil field rest))
  exact ⟨session, save, resumed, _, after, hcreate, hread, hresume, hv, hafter, hkeeps.mpr hkept⟩

/-- A cell whose code empties the namespace that holds its bread. -/
def cell : Source Script.Interpreter :=
  ⟨"sections: \x7bcell: \x7bvars: \x7bbread: 1\x7d, run: \"s = #\x7b\x7d\"\x7d\x7d", .seeded 1⟩

/-- The bread in the cell is gone when the session is saved, and back after going on. -/
theorem emptied_namespace_refilled :
    ∃ session save resumed v after, create Script.engine cell none = .ok session ∧
      Save.ofText (session.save Script.engine).toJson.compact = .ok save ∧
      resume Script.engine cell save = .ok resumed ∧
      Script.engine.read (sectionNamespace "cell") session.story.stage.engine = .ok v ∧
      Script.engine.read (sectionNamespace "cell") resumed.story.stage.engine = .ok after ∧
      ¬ after.SameButVisits v := by
  have hany : (beginAgain Script.engine cell).any (fun again =>
      (Stage.reads Script.engine (sectionNamespace "cell") again.1.story.stage).isOk &&
      (Stage.reads Script.engine (sectionNamespace "cell") again.2.2.story.stage).isOk &&
      (Stage.privates Script.engine "cell" again.1.story.stage).isEmpty &&
      (Stage.privates Script.engine "cell" again.2.2.story.stage).names == ["bread", "visits"]) =
        true := by decide +kernel
  obtain ⟨⟨session, save, resumed⟩, hagain, htest⟩ := (Option.any_eq_true ..).mp hany
  obtain ⟨hcreate, hread, hresume⟩ := beginAgain_eq_some hagain
  simp only [Bool.and_eq_true, List.isEmpty_iff, beq_iff_eq] at htest
  obtain ⟨⟨⟨hok, hok'⟩, hbefore⟩, hnames⟩ := htest
  obtain ⟨v, hv⟩ := ok_of_isOk hok
  obtain ⟨after, hafter⟩ := ok_of_isOk hok'
  refine ⟨session, save, resumed, v, after, hcreate, hread, hresume, hv, hafter, fun hsame => ?_⟩
  rw [Stage.privates, Stage.valueOf_reads hafter] at hnames
  split at hnames
  · next fields =>
    obtain ⟨others, rfl⟩ := hsame.isRecord
    obtain rfl : others = [] := (Stage.privates_reads hv).symm.trans hbefore
    have hbread := Value.sameButVisits_records.mp hsame "bread" (by decide)
    change _ = none at hbread
    rw [Fields.find?_eq_none_iff, Fields.mem_names_sorted, Value.names_canonicalFields,
      hnames] at hbread
    exact hbread List.mem_cons_self
  · cases hnames

end Session

end Gamebook
