import Gamebook.Proofs.Documents
import Gamebook.Proofs.SaveText
import Gamebook.Proofs.Session.Cursor

/-!
# Sessions that can be reached from a text

Sessions are reached from the text of a gamebook by creating one, by steps, and by going on from
the text of a save, in any order. All of them play the same document: their sections are those of
the document but for visits and hidden options, sections that were never entered are as they were
written, and the current section was entered.

A save keeps the entered sections only. That is enough: going on from it, every section is as it was
(`Session.Plays.section?_resumed`).

* `Session.Reached` : the sessions that can be reached.
* `Session.Plays` : what they have in common.
* `Session.Reached.plays` : every reached session plays the document of its text.
-/

namespace Gamebook

variable {σ : Type} {E : Engine σ}

/-- The text is a written form of the save. -/
def Save.WrittenAs (save : Save) (text : String) : Prop :=
  text = save.toJson.compact ∨ text = save.toJson.indented

theorem Save.WrittenAs.reread {save save' : Save} {text : String} (h : save.WrittenAs text)
    (hread : Save.ofText text = .ok save') : save' = save.reread := by
  rcases h with rfl | rfl
  · exact Save.ofText_compact hread
  · exact Save.ofText_indented hread

/-! ## Stories of a document -/

/-- The options of a section have the names that the document gives them. -/
theorem Section.names_choices {id : String} {spec : SectionSpec} {s : Section}
    (h : (Section.ofSpec id spec).unplayed = s.unplayed) :
    s.choices.names = spec.options.names := by
  have hnames (s : Section) : Fields.names s.unplayed.choices = s.choices.names :=
    Fields.names_mapped (fun _ => Choice.shown) s.choices
  rw [← hnames, ← h, hnames]
  exact Fields.names_mapped (fun optionId => Choice.ofSpec optionId id) spec.options

/-- A section of a story with the sections of a document is one of them, but for its progress. -/
theorem Story.SameBook.spec {document : Document} {engine : σ} {story : Story σ}
    (h : (Story.ofDocument document engine).SameBook story) {id : String} {s : Section}
    (hs : story.section? id = some s) :
    ∃ spec, document.sections.find? id = some spec ∧
      (Section.ofSpec id spec).unplayed = s.unplayed := by
  have hmap := h.section? id
  rw [hs, Story.section?_ofDocument, Option.map_map, Option.map_some, eq_comm,
    Option.map_eq_some_iff] at hmap
  obtain ⟨spec, hspec, heq⟩ := hmap
  exact ⟨spec, hspec, heq⟩

/-- The sections are those of the document but for their progress, and those that were never entered
are as the document has them. -/
structure Story.Plays (document : Document) (story : Story σ) : Prop where
  book : ∃ engine, (Story.ofDocument document engine).SameBook story
  pristine : ∀ id s, story.section? id = some s → s.visits = 0 →
    (document.sections.find? id).map (Section.ofSpec id) = some s

namespace Story.Plays

variable {document : Document} {story : Story σ}

theorem ofDocument (document : Document) (engine : σ) :
    (Story.ofDocument document engine).Plays document where
  book := ⟨engine, .refl _⟩
  pristine id _ hs _ := (Story.section?_ofDocument document engine id).symm.trans hs

theorem on_stage (h : story.Plays document) (stage : Stage σ) :
    Plays document { story with stage } where
  book := by
    obtain ⟨engine, hbook⟩ := h.book
    exact ⟨engine, hbook.trans (.on_stage story stage)⟩
  pristine := h.pristine

/-- Progress in a section that has been entered. -/
theorem modify (h : story.Plays document) (stage : Stage σ) {id : String} {f : Section → Section}
    (hf : ∀ s, (f s).unplayed = s.unplayed)
    (hvisits : ∀ s, story.section? id = some s → (f s).visits ≠ 0) :
    Plays document { story with sections := story.sections.modify id f, stage } where
  book := by
    obtain ⟨engine, hbook⟩ := h.book
    exact ⟨engine, hbook.trans (.modify story stage id hf)⟩
  pristine other s hs hzero := by
    rw [Story.section?, Fields.find?_modify] at hs
    split at hs
    · next heq =>
      subst heq
      obtain ⟨s₀, hs₀, rfl⟩ := Option.map_eq_some_iff.mp hs
      exact absurd hzero (hvisits s₀ hs₀)
    · exact h.pristine other s hs hzero

theorem visit (h : story.Plays document) {id : String} {s : Section}
    (hs : story.section? id = some s) : (story.visit E id).2.Plays document := by
  rw [Story.visit_known hs]
  exact h.modify _ Section.unplayed_counted fun _ _ => Section.nextVisit_ne_zero _

/-- A section of the story is a section of the document, but for its progress. -/
theorem spec (h : story.Plays document) {id : String} {s : Section}
    (hs : story.section? id = some s) :
    ∃ spec, document.sections.find? id = some spec ∧
      (Section.ofSpec id spec).unplayed = s.unplayed := by
  obtain ⟨engine, hbook⟩ := h.book
  exact hbook.spec hs

theorem names_sections (h : story.Plays document) :
    story.sections.names = document.sections.names := by
  obtain ⟨engine, hbook⟩ := h.book
  exact hbook.names_sections.trans (Story.names_ofDocument document engine)

/-- The options of a section keep the names that the document gives them. -/
theorem names_choices (h : story.Plays document) (hd : document.Distinct) {id : String}
    {s : Section} (hs : story.section? id = some s) : s.choices.names.Nodup := by
  obtain ⟨spec, hspec, heq⟩ := h.spec hs
  rw [Section.names_choices heq]
  exact hd.options _ (Fields.mem_of_find? hspec)

end Story.Plays

namespace Session

/-! ## Reached sessions -/

/-- The sessions that can be reached from the text of a gamebook. -/
inductive Reached (E : Engine σ) (text : String) : Session σ → Prop where
  | created {engines : Engines σ} {start : Option String} {session : Session σ}
    (h : create E ⟨text, engines⟩ start = .ok session) : Reached E text session
  | stepped {session : Session σ} (h : Reached E text session) (step : Step) :
    Reached E text (session.step E step)
  | resumed {session resumed : Session σ} {written : String} {save : Save}
    {engines : Engines σ} (h : Reached E text session) (hw : (session.save E).WrittenAs written)
    (hread : Save.ofText written = .ok save)
    (hresume : resume E ⟨text, engines⟩ save = .ok resumed) : Reached E text resumed

/-- The session is at its cursor in a story of the document that its text describes, in a section
that was entered. -/
structure Plays (text : String) (document : Document) (session : Session σ) : Prop where
  source : session.source.text = text
  loaded : Document.ofText text = .ok document
  cursor : session.AtCursor
  story : session.story.Plays document
  visited : ∀ s, session.story.section? session.current = some s → s.visits ≠ 0

variable {text : String} {document : Document} {session : Session σ} {s : Section}

/-- A session in a section that was just entered. -/
theorem plays_entered {source : Source σ} {story : Story σ} {id : String}
    (ht : source.text = text) (hd : Document.ofText text = .ok document) (hk : story.Keyed)
    (h : story.Plays document) (hs : story.section? id = some s) :
    Plays text document ⟨source, (story.visit E id).2, id⟩ where
  source := ht
  loaded := hd
  cursor := atCursor_entered hk hs source
  story := h.visit hs
  visited s' hs' := by
    change (story.visit E id).2.section? id = some s' at hs'
    rw [Story.section?, Story.sections_visit hs, Fields.find?_modify_self] at hs'
    obtain ⟨s₀, -, rfl⟩ := Option.map_eq_some_iff.mp hs'
    exact Section.nextVisit_ne_zero s₀.visits

theorem plays_atStart {source : Source σ} {story : Story σ}
    (ht : source.text = text) (hd : Document.ofText text = .ok document)
    (h : source.load E = .ok story) : (atStart E source story).Plays text document := by
  have hfresh := Source.fresh_of_load h
  obtain ⟨s, hs⟩ := Story.hasSection_iff.mp hfresh.start
  obtain ⟨document', engine, hd', -, rfl⟩ := Source.load_ok h
  obtain rfl : document' = document := Except.ok.inj (hd'.symm.trans (ht ▸ hd))
  exact plays_entered ht hd hfresh.keyed (.ofDocument _ engine) hs

namespace Plays

theorem on_stage (h : session.Plays text document) {stage : Stage σ}
    (hbound : stage.bound = session.story.stage.bound) :
    Plays text document { session with story := { session.story with stage } } where
  source := h.source
  loaded := h.loaded
  cursor := h.cursor.on_stage hbound
  story := h.story.on_stage stage
  visited := h.visited

/-- An option of the current section was executed. -/
theorem executed (h : session.Plays text document) {optionId : String} {choice : Choice}
    {outcome : Outcome} {stage : Stage σ}
    (hs : session.story.section? session.current = some s)
    (hc : s.choices.find? optionId = some choice)
    (hx : choice.execute E (session.stageOffered E) = (outcome, stage)) :
    (session.executed optionId stage).Plays text document := by
  have hstays := stays_executed hs hc hx
  refine ⟨h.source, h.loaded, h.cursor.of_sameBook hstays.book rfl hstays.bound, ?_, ?_⟩
  · exact h.story.modify stage (Section.unplayed_spend optionId) h.visited
  · intro s' hs'
    change (Fields.modify session.current (Section.spend optionId) session.story.sections).find?
      session.current = some s' at hs'
    rw [Fields.find?_modify_self] at hs'
    obtain ⟨s₀, hs₀, rfl⟩ := Option.map_eq_some_iff.mp hs'
    exact h.visited s₀ hs₀

theorem names_nodup (h : session.Plays text document) :
    session.story.sections.names.Nodup :=
  h.story.names_sections ▸ (Document.distinct_ofText h.loaded).sections

/-- Every step goes on playing the document. -/
theorem closed (E : Engine σ) (text : String) (document : Document) :
    Closed E (Plays text document) where
  known h := h.cursor.known
  on_stage h _ hbound := h.on_stage hbound
  executed h _ _ _ _ _ hs hc hx := h.executed hs hc hx
  entered h _ _ hs := plays_entered h.source h.loaded h.cursor.keyed h.story hs
  restarted h _ hload := plays_atStart h.source h.loaded hload

end Plays

/-! ## Going on from the text of a save -/

theorem nodup_saved (E : Engine σ) (session : Session σ) :
    (session.save E).reread.sections.names.Nodup := (Fields.ascending_sorted _).nodup_names

/-- What the text of a save holds of a section that was entered. -/
theorem find?_reread (E : Engine σ) (session : Session σ)
    (hn : session.story.sections.names.Nodup) (id : String) :
    (session.save E).reread.sections.find? id =
      ((session.story.section? id).filter (fun s => s.visits != 0)).map fun s =>
        s.progress (Json.rereadVariables (Stage.privates E id session.story.stage)) := by
  have hascending : Fields.Ascending (session.save E).sections := Fields.ascending_sorted _
  have hmapped := Fields.names_mapped (fun _ => Progress.reread) (session.save E).sections
  have hfind := Fields.find?_mapped (fun _ => Progress.reread) id (session.save E).sections
  refine (Fields.find?_sorted id (hmapped ▸ hascending.nodup_names)).trans (hfind.trans ?_)
  rw [save, Story.find?_progress E hn, Option.map_map]
  rfl

/-- Going on from the text of its own save, a session restores its sections, binds the current one
and puts back its variables and its dice. -/
theorem Plays.resume_ok (h : session.Plays text document) {engines : Engines σ}
    {written : String} {save : Save} {resumed : Session σ}
    (hw : (session.save E).WrittenAs written)
    (hread : Save.ofText written = .ok save)
    (hresume : resume E ⟨text, engines⟩ save = .ok resumed) :
    save = (session.save E).reread ∧ ∃ loaded kept s stage,
      Story.register E document engines.next = (.ok (), loaded) ∧
      Story.restore E save.sections (Story.ofDocument document loaded) = (.ok (), kept) ∧
      kept.section? session.current = some s ∧
      Story.putBackOf E save.globals kept.roster (s.rebind E kept.stage) = (.ok (), stage) ∧
      resumed =
        ⟨⟨text, engines⟩, restoreDice E save { kept with stage }, session.current⟩ := by
  obtain rfl := hw.reread hread
  obtain ⟨-, story, entered, stored, hload, hentered, hstored, rfl⟩ := Session.resume_ok hresume
  obtain ⟨document', loaded, hd', hregister, rfl⟩ := Source.load_ok hload
  obtain rfl : document' = document := Except.ok.inj (hd'.symm.trans h.loaded)
  -- the current section was entered, so the save has sections
  have hfull : (session.save E).reread.sections ≠ [] := by
    intro hnil
    obtain ⟨s, hs⟩ := Story.hasSection_iff.mp h.cursor.known
    have hfind := find?_reread E session h.names_nodup session.current
    rw [hnil, hs, Option.filter_some, if_pos (by simp [h.visited s hs])] at hfind
    cases hfind
  obtain ⟨hempty, -⟩ | ⟨-, kept, s, hkept, hs, rfl⟩ := restoreSections_ok hentered
  · exact absurd hempty hfull
  obtain ⟨stage, hput, rfl⟩ := Story.putBack_ok hstored
  exact ⟨rfl, loaded, kept, s, stage, hregister, hkept, hs, hput, rfl⟩

/-- What the text of a save holds is enough to restore every section. -/
theorem Plays.section?_restored (h : session.Plays text document) {loaded : σ} {kept : Story σ}
    (hkept : Story.restore E (session.save E).reread.sections
      (Story.ofDocument document loaded) = (.ok (), kept)) (id : String) :
    kept.section? id = session.story.section? id := by
  have hdistinct := Document.distinct_ofText h.loaded
  rw [Story.section?, Story.restore_ok hkept, Story.find?_restored id (nodup_saved E session),
    find?_reread E session h.names_nodup]
  change ((Story.ofDocument document loaded).section? id).map _ = _
  rw [Story.section?_ofDocument]
  cases hs : session.story.section? id with
  | none =>
    have hnone : document.sections.find? id = none := by
      rw [Fields.find?_eq_none_iff, ← h.story.names_sections, ← Fields.find?_eq_none_iff]
      exact hs
    rw [hnone]
    rfl
  | some s =>
    obtain ⟨spec, hspec, hsame⟩ := h.story.spec hs
    rw [hspec, Option.map_some, Option.map_some, Option.filter_some]
    by_cases hzero : s.visits = 0
    · have hpristine := h.story.pristine id s hs hzero
      rw [hspec, Option.map_some] at hpristine
      rw [if_neg (by simp [hzero])]
      exact hpristine
    · rw [if_pos (by simp [hzero])]
      exact congrArg some (Section.withProgress_progress hsame
        (h.story.names_choices hdistinct hs) _)

/-- Going on from the text of its save, a session finds every section as it was. -/
theorem Plays.section?_resumed (h : session.Plays text document) {engines : Engines σ}
    {written : String} {save : Save} {resumed : Session σ}
    (hw : (session.save E).WrittenAs written)
    (hread : Save.ofText written = .ok save)
    (hresume : resume E ⟨text, engines⟩ save = .ok resumed) :
    (∀ id, resumed.story.section? id = session.story.section? id) ∧
      resumed.Plays text document := by
  have hat := atCursor_resume hresume
  obtain ⟨rfl, loaded, kept, s, stage, -, hkept, hs, -, rfl⟩ := h.resume_ok hw hread hresume
  obtain ⟨stage', hdice, -⟩ := restoreDice_eq E (session.save E).reread
    { kept with stage }
  have hsections := h.section?_restored hkept
  rw [hdice] at hat ⊢
  refine ⟨hsections, ⟨rfl, h.loaded, hat, ⟨?_, ?_⟩, ?_⟩⟩
  · exact ⟨loaded, (Story.sameBook_restore hkept).trans (.on_stage kept stage')⟩
  · intro id s hs
    exact h.story.pristine id s ((hsections id).symm.trans hs)
  · intro s hs
    exact h.visited s ((hsections _).symm.trans hs)

/-- Every reached session plays the document that its text describes. -/
theorem Reached.plays (h : Reached E text session) : ∃ document, session.Plays text document := by
  induction h with
  | created h =>
    obtain ⟨story, s, hload, hs, rfl⟩ := create_ok h
    have hfresh := Source.fresh_of_load hload
    obtain ⟨document, engine, hd, -, rfl⟩ := Source.load_ok hload
    exact ⟨document, plays_entered rfl hd hfresh.keyed (.ofDocument _ engine) hs⟩
  | stepped h step ih =>
    obtain ⟨document, hplays⟩ := ih
    exact ⟨document, (Plays.closed E text document).step hplays step⟩
  | resumed h hw hread hresume ih =>
    obtain ⟨document, hplays⟩ := ih
    exact ⟨document, (hplays.section?_resumed hw hread hresume).2⟩

end Session

end Gamebook
