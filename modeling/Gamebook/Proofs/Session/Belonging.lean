import Gamebook.Proofs.Session.Once
import Gamebook.Proofs.Session.Showing

/-!
# What is shown belongs to the document

A session stays with the document of its text, whatever save it goes on from and whatever is done
with it. So a boundary shows a section of the document, and offers options of that section only.

* `Session.Belongs` : the session plays the document of its text.
* `Session.Opened.belongs`, `Session.Belongs.closed` : every session does, and after every step.
* `Session.Belongs.shown` : the ids of a boundary are those of the document.
-/

namespace Gamebook

variable {σ : Type} {E : Engine σ} {document : Document}

/-- The options of a section that are shown have ids of the document. -/
theorem Story.SameBook.ids_offers {engine : σ} {story : Story σ}
    (h : (Story.ofDocument document engine).SameBook story) {id : String} {s : Section}
    (hs : story.section? id = some s) {offers : List Offer}
    (ho : (story.offers E id).1 = .ok offers) :
    ∃ spec, document.sections.find? id = some spec ∧
      ∀ offer ∈ offers, offer.id ∈ spec.options.names := by
  obtain ⟨spec, hspec, heq⟩ := h.spec hs
  refine ⟨spec, hspec, fun offer hoffer => ?_⟩
  simp only [Story.offers, onSection, hs, onStage, Except.ok.injEq] at ho
  have hmem : offer.id ∈ offers.map Offer.id := List.mem_map_of_mem hoffer
  rw [← ho, ids_offersOf, List.mem_map] at hmem
  obtain ⟨choice, hchoice, hid⟩ := hmem
  obtain ⟨optionId, hentry, -⟩ := Section.mem_availableOf hchoice
  have hkey : choice.id = optionId := Section.ids_choices heq _ hentry
  rw [← Section.names_choices heq, ← hid, hkey]
  exact List.mem_map_of_mem hentry

namespace Session

variable {session final : Session σ}

/-- The session is at its cursor in a story with the sections of the document of its text. -/
structure Belongs (document : Document) (session : Session σ) : Prop where
  loaded : Document.ofText session.source.text = .ok document
  cursor : session.AtCursor
  book : ∃ engine, (Story.ofDocument document engine).SameBook session.story

/-- A loaded story has the sections of the document of its text. -/
theorem book_of_load {source : Source σ} {story : Story σ} (hload : source.load E = .ok story)
    (hloaded : Document.ofText source.text = .ok document) :
    ∃ engine, (Story.ofDocument document engine).SameBook story := by
  obtain ⟨document', engine, hdocument, -, rfl⟩ := Source.load_ok hload
  obtain rfl := Except.ok.inj (hloaded.symm.trans hdocument)
  exact ⟨engine, .refl _⟩

namespace Belongs

/-- A session that has just entered a section of such a story. -/
theorem of_entered {source : Source σ} {story : Story σ} {id : String} {s : Section}
    (hloaded : Document.ofText source.text = .ok document) (hkeyed : story.Keyed)
    (hbook : ∃ engine, (Story.ofDocument document engine).SameBook story)
    (hs : story.section? id = some s) : Belongs document ⟨source, (story.visit E id).2, id⟩ where
  loaded := hloaded
  cursor := atCursor_entered hkeyed hs source
  book := hbook.imp fun _ h => h.trans (Story.sameBook_visit E id story)

/-- What changes neither the source nor the book keeps a session with its document. -/
theorem of_sameBook {after : Session σ} (h : session.Belongs document) (hat : after.AtCursor)
    (hsource : after.source = session.source) (hbook : session.story.SameBook after.story) :
    after.Belongs document where
  loaded := hsource ▸ h.loaded
  cursor := hat
  book := h.book.imp fun _ h => h.trans hbook

/-- Every step keeps a session with its document. -/
theorem closed (E : Engine σ) (document : Document) : Closed E (Belongs document) where
  known h := h.cursor.known
  on_stage h _ hbound := h.of_sameBook (h.cursor.on_stage hbound) rfl (.on_stage _ _)
  executed h _ _ _ _ _ hs hc hx :=
    h.of_sameBook ((AtCursor.closed E).executed h.cursor hs hc hx) rfl
      (stays_executed hs hc hx).book
  entered h _ _ hs := of_entered h.loaded h.cursor.keyed h.book hs
  restarted h _ hload := by
    have hfresh := Source.fresh_of_load hload
    obtain ⟨s, hs⟩ := Story.hasSection_iff.mp hfresh.start
    exact of_entered h.loaded hfresh.keyed (book_of_load hload h.loaded) hs

end Belongs

/-- Whatever a save holds, a session that goes on from it has the sections of its document. -/
theorem belongs_resume {source : Source σ} {save : Save}
    (hresume : resume E source save = .ok session)
    (hloaded : Document.ofText source.text = .ok document) : session.Belongs document := by
  have hat := atCursor_resume hresume
  obtain ⟨-, story, entered, written, hload, hentered, hwritten, rfl⟩ := resume_ok hresume
  obtain ⟨engine, hbook⟩ := book_of_load hload hloaded
  have hentered' : story.SameBook entered := by
    obtain ⟨-, s, hs, rfl⟩ | ⟨-, kept, s, hkept, hs, rfl⟩ := restoreSections_ok hentered
    · exact Story.sameBook_visit E _ _
    · exact (Story.sameBook_restore hkept).trans (.on_stage _ _)
  obtain ⟨stage, -, rfl⟩ := Story.putBack_ok hwritten
  obtain ⟨stage', hdice, -⟩ := restoreDice_eq E save { entered with stage }
  rw [hdice] at hat ⊢
  exact ⟨hloaded, hat, engine, hbook.trans (hentered'.trans (.on_stage entered stage'))⟩

/-- Every session that was opened belongs to the document of its text. -/
theorem Opened.belongs (h : Opened E session)
    (hloaded : Document.ofText session.source.text = .ok document) : session.Belongs document := by
  cases h with
  | created h =>
    obtain ⟨story, s, hload, hs, rfl⟩ := create_ok h
    exact .of_entered hloaded (Source.fresh_of_load hload).keyed (book_of_load hload hloaded) hs
  | resumed h =>
    obtain ⟨-, story, entered, written, -, -, -, rfl⟩ := resume_ok h
    exact belongs_resume h hloaded

/-- Every session that was opened belongs to a document. -/
theorem Opened.exists_belongs (h : Opened E session) : ∃ document, session.Belongs document := by
  obtain ⟨story, hload⟩ : ∃ story, session.source.load E = .ok story := by
    cases h with
    | created h =>
      obtain ⟨story, -, hload, -, rfl⟩ := create_ok h
      exact ⟨story, hload⟩
    | resumed h =>
      obtain ⟨-, story, -, -, hload, -, -, rfl⟩ := resume_ok h
      exact ⟨story, hload⟩
  obtain ⟨document, -, hdocument, -, -⟩ := Source.load_ok hload
  exact ⟨document, h.belongs hdocument⟩

/-- The offers of a view are those of the current section, worked out after its text. -/
theorem offers_of_view {shown : SectionView} (hknown : session.story.hasSection session.current)
    (h : session.view E = (.ok shown, final)) :
    final.current = session.current ∧ ∃ rendered,
      (Story.offers E session.current { session.story with stage := rendered }).1 =
        .ok shown.offers := by
  obtain ⟨s, hs⟩ := Story.hasSection_iff.mp hknown
  obtain ⟨text, rendered, htext, -⟩ := Story.text_known (E := E) hs
  have hs' : ({ session.story with stage := rendered } : Story σ).section? session.current =
      some s := hs
  obtain ⟨offers, stage, hoffers, -⟩ := Story.offers_known (E := E) hs'
  have hs'' : ({ session.story with stage } : Story σ).section? session.current = some s := hs
  simp only [view, onStory, htext, hoffers, hs''] at h
  obtain ⟨hview, rfl⟩ := Prod.mk.inj h
  obtain rfl := Except.ok.inj hview
  exact ⟨rfl, rendered, congrArg Prod.fst hoffers⟩

/-- A boundary shows a section of the document, and offers options of that section. -/
theorem Belongs.shown (h : session.Belongs document) {boundary : Boundary}
    (hshows : boundary.Shows E session final) :
    ∃ spec, document.sections.find? boundary.sectionId = some spec ∧
      ∀ offer ∈ boundary.offers, offer.id ∈ spec.options.names := by
  obtain ⟨⟨view, hview, -, -, hshown⟩, hsection⟩ := hshows
  obtain ⟨hcurrent, rendered, hoffers⟩ := offers_of_view h.cursor.known hview
  obtain ⟨s, hs⟩ := Story.hasSection_iff.mp h.cursor.known
  obtain ⟨engine, hbook⟩ := h.book
  have hrendered : (Story.ofDocument document engine).SameBook
      { session.story with stage := rendered } := hbook.trans (.on_stage _ _)
  rw [hsection, hcurrent, ← hshown]
  exact hrendered.ids_offers hs hoffers

end Session

end Gamebook
