import Gamebook.Proofs.Failing
import Gamebook.Proofs.Story
import Gamebook.Session

/-!
# Loaded stories

What is known of a story right after it was loaded from a text: it is the story of the document
that the text describes, nothing in it was entered, no section is bound, and there is a section to
start in. A session begins there, and so does every restart.

* `Source.load_ok` : a loaded story is the story of the document.
* `Story.Fresh` : what every loaded story has.
* `Session.create_ok`, `Session.restart_eq` : beginning and starting over.
-/

namespace Gamebook

variable {σ : Type} {E : Engine σ}

/-! ## Documents -/

namespace Document

/-- A document that passes the check has sections. -/
theorem sections_ne_nil_of_check {document : Document} (h : document.check = .ok ()) :
    document.sections ≠ [] := by
  intro hnil
  simp [check, hnil, throw, throwThe, MonadExceptOf.throw, bind, Except.bind] at h

theorem check_of_ofText {text : String} {document : Document}
    (h : Document.ofText text = .ok document) : document.check = .ok () := by
  obtain ⟨data, -, h⟩ := bind_ok h
  obtain ⟨read, -, h⟩ := bind_ok h
  obtain ⟨u, hcheck, h⟩ := bind_ok h
  cases h
  exact hcheck

end Document

namespace Story

/-! ## Fresh stories -/

theorem section?_ofDocument (document : Document) (engine : σ) (id : String) :
    (ofDocument document engine).section? id =
      (document.sections.find? id).map (Section.ofSpec id) :=
  Fields.find?_mapped Section.ofSpec id document.sections

/-- Nothing was entered, no section is bound, every section stands under its own id, and there is
a section to start in. -/
structure Fresh (story : Story σ) : Prop where
  keyed : story.Keyed
  unvisited : ∀ id s, story.section? id = some s → s.visits = 0
  bound : story.stage.bound = none
  start : story.hasSection story.startId = true

theorem startId_known {story : Story σ} (h : story.sections ≠ []) :
    story.hasSection story.startId = true := by
  unfold startId
  split
  · next hstart => exact hstart
  · cases hsections : story.sections with
    | nil => exact absurd hsections h
    | cons entry rest =>
      rw [hasSection, hsections, Fields.has_iff]
      exact List.mem_cons_self

theorem names_ofDocument (document : Document) (engine : σ) :
    (ofDocument document engine).sections.names = document.sections.names :=
  Fields.names_mapped Section.ofSpec document.sections

theorem keyed_ofDocument (document : Document) (engine : σ) :
    (ofDocument document engine).Keyed := by
  intro id s hs
  rw [section?_ofDocument, Option.map_eq_some_iff] at hs
  obtain ⟨spec, -, rfl⟩ := hs
  rfl

theorem unvisited_ofDocument (document : Document) (engine : σ) {id : String} {s : Section}
    (h : (ofDocument document engine).section? id = some s) : s.visits = 0 := by
  rw [section?_ofDocument, Option.map_eq_some_iff] at h
  obtain ⟨spec, -, rfl⟩ := h
  rfl

theorem fresh_ofDocument {document : Document} (h : document.check = .ok ()) (engine : σ) :
    (ofDocument document engine).Fresh where
  keyed := keyed_ofDocument document engine
  unvisited _ _ := unvisited_ofDocument document engine
  bound := rfl
  start := by
    refine startId_known fun hnil => ?_
    exact Document.sections_ne_nil_of_check h (List.map_eq_nil_iff.mp hnil)

theorem load_ok {document : Document} {engine : σ} {story : Story σ}
    (h : (load E document engine).1 = .ok story) :
    ∃ loaded, register E document engine = (.ok (), loaded) ∧
      story = ofDocument document loaded := by
  unfold load at h
  split at h
  · split at h
    · next loaded hregister =>
      cases h
      exact ⟨loaded, hregister, rfl⟩
    · cases h
  · cases h

end Story

namespace Source

/-- A story that was loaded is the story of the document that the text describes. -/
theorem load_ok {source : Source σ} {story : Story σ} (h : source.load E = .ok story) :
    ∃ document engine, Document.ofText source.text = .ok document ∧
      Story.register E document source.engine = (.ok (), engine) ∧
      story = Story.ofDocument document engine := by
  unfold load at h
  split at h
  · cases h
  · next document hdocument =>
    obtain ⟨engine, hregister, rfl⟩ := Story.load_ok h
    exact ⟨document, engine, hdocument, hregister, rfl⟩

theorem fresh_of_load {source : Source σ} {story : Story σ} (h : source.load E = .ok story) :
    story.Fresh := by
  obtain ⟨document, engine, hdocument, -, rfl⟩ := load_ok h
  exact Story.fresh_ofDocument (Document.check_of_ofText hdocument) engine

/-- The document that a text describes and the loaded story, if both are there. -/
def opened? (E : Engine σ) (source : Source σ) : Option (Document × Story σ) := do
  let document ← (Document.ofText source.text).toOption
  let story ← (Story.load E document source.engine).1.toOption
  pure (document, story)

theorem opened?_eq_some {source : Source σ} {document : Document} {story : Story σ}
    (h : source.opened? E = some (document, story)) :
    Document.ofText source.text = .ok document ∧
      (Story.load E document source.engine).1 = .ok story := by
  obtain ⟨document', hdocument, h⟩ := Option.bind_eq_some_iff.mp h
  obtain ⟨story', hload, h⟩ := Option.bind_eq_some_iff.mp h
  cases h
  exact ⟨toOption_eq_some hdocument, toOption_eq_some hload⟩

end Source

namespace Session

/-! ## Beginning and starting over -/

/-- A session begins by entering a section of a loaded story. -/
theorem create_ok {source : Source σ} {start : Option String} {session : Session σ}
    (h : create E source start = .ok session) :
    ∃ story s, source.load E = .ok story ∧ story.section? (start.getD story.startId) = some s ∧
      session = ⟨source, (story.visit E (start.getD story.startId)).2,
        start.getD story.startId⟩ := by
  obtain ⟨story, hload, h⟩ := bind_ok h
  dsimp only at h
  cases hs : story.section? (start.getD story.startId) with
  | none => simp [Story.visit_unknown hs] at h
  | some s =>
    simp only [Story.visit_known hs, Except.ok.injEq] at h
    exact ⟨story, s, hload, hs, by rw [← h, Story.visit_known hs]⟩

/-- The session at the start section of a story. -/
def atStart (E : Engine σ) (source : Source σ) (story : Story σ) : Session σ :=
  ⟨source, (story.visit E story.startId).2, story.startId⟩

/-- A session without a start section of its own begins where the story says. It fails only if the
story cannot be loaded. -/
theorem create_none (E : Engine σ) (source : Source σ) :
    create E source none = (source.load E).map (atStart E source) := by
  unfold create
  cases hload : source.load E with
  | error fault => rfl
  | ok story =>
    obtain ⟨s, hs⟩ := Story.hasSection_iff.mp (Source.fresh_of_load hload).start
    simp only [bind, Except.bind, Except.map, Option.getD_none, Story.visit_known hs, atStart]

theorem restart_eq (E : Engine σ) (session : Session σ) :
    session.restart E = match session.source.later.load E with
      | .ok story => (.ok (), atStart E session.source.later story)
      | .error fault => (.error fault, session) := by
  rw [restart, create_none]
  cases session.source.later.load E <;> rfl

end Session

end Gamebook
