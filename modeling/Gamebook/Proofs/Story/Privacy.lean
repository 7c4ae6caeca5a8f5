import Gamebook.Proofs.Registering
import Gamebook.Proofs.Script.Storing
import Gamebook.Proofs.Story.Operations
import Mathlib.Data.List.Forall2
import Mathlib.Data.List.Nodup

/-!
# Whose a namespace is

The name of a namespace is the id of its section with an underscore for every character that a name
may not hold. So two sections share a namespace exactly if their ids `LookAlike`: they are equally
long, and where they differ neither has a letter or digit. A section that looks like no other has a
namespace of its own: it starts with its own private variables, and while another section is entered
or plays, nothing but a script that names it changes it. Sections that look alike have one
namespace, and it starts with the private variables of the last of them.

* `sectionNamespace_eq_iff` : when two ids have one namespace.
* `Story.namespaces_apart` : what is private to a section in a loaded story.
-/

namespace Gamebook

/-! ## Names of namespaces -/

/-- The characters are the same, or neither is an ASCII letter or digit. -/
def AlikeChars (c d : Char) : Prop := c = d ∨ (c.isAlphanum = false ∧ d.isAlphanum = false)

/-- The ids are equally long, and alike character by character. -/
def LookAlike (id other : String) : Prop := List.Forall₂ AlikeChars id.toList other.toList

theorem nameChar_eq_iff (c d : Char) :
    (if isNameChar c then c else '_') = (if isNameChar d then d else '_') ↔ AlikeChars c d := by
  -- what is no letter or digit becomes an underscore, the underscore too
  have hblur (c : Char) (h : c.isAlphanum = false) :
      (if isNameChar c then c else '_') = '_' := by
    by_cases hc : c = '_' <;> simp [isNameChar, h, hc]
  have hkeep (c : Char) (h : c.isAlphanum = true) :
      (if isNameChar c then c else '_') = c ∧ c ≠ '_' :=
    ⟨by simp [isNameChar, h], by rintro rfl; exact absurd h (by decide)⟩
  unfold AlikeChars
  cases hc : c.isAlphanum <;> cases hd : d.isAlphanum
  · simp [hblur c hc, hblur d hd]
  · have hne : c ≠ d := by rintro rfl; simp [hc] at hd
    simp [hblur c hc, hkeep d hd, Ne.symm (hkeep d hd).2, hne]
  · have hne : c ≠ d := by rintro rfl; simp [hc] at hd
    simp [hkeep c hc, hblur d hd, hne]
  · simp [hkeep c hc, hkeep d hd]

/-- Two sections have one namespace exactly if their ids look alike. -/
theorem sectionNamespace_eq_iff (id other : String) :
    sectionNamespace id = sectionNamespace other ↔ LookAlike id other := by
  have hchars (cs ds : List Char) :
      cs.map (fun c => if isNameChar c then c else '_') =
        ds.map (fun c => if isNameChar c then c else '_') ↔ List.Forall₂ AlikeChars cs ds := by
    rw [← List.forall₂_eq_eq_eq, List.forall₂_map_left_iff, List.forall₂_map_right_iff]
    simp only [nameChar_eq_iff]
  rw [LookAlike, ← hchars, sectionNamespace, sectionNamespace, ← String.toList_inj,
    String.toList_append, String.toList_append, List.append_cancel_left_eq, toNameChars,
    toNameChars, String.toList_ofList, String.toList_ofList]

variable {σ : Type} {E : Engine σ}

namespace Stage

variable (hE : E.Recalls) {id : String}
include hE

/-- Copying the alias back touches the namespace of the bound section alone. -/
theorem reads_commit_of_ne {st : Stage σ} {bound : String} (hbound : st.bound = some bound)
    (hne : sectionNamespace id ≠ sectionNamespace bound) :
    reads E (sectionNamespace id) (commit E st) = reads E (sectionNamespace id) st := by
  unfold commit
  rw [hbound]
  dsimp only
  split
  · exact reads_put_of_ne hE hne _ st
  · rfl

/-- While another section is bound, statements change a namespace by themselves or not at all. -/
theorem reads_run_of_ne {st : Stage σ} {bound : String} (hbound : st.bound = some bound)
    (hne : sectionNamespace id ≠ sectionNamespace bound) (code : String) :
    reads E (sectionNamespace id) (run E code st).2 =
      E.read (sectionNamespace id) (E.execute code st.engine).2 := by
  have hexecuted : ({ st with engine := (E.execute code st.engine).2 } : Stage σ).bound =
      some bound := hbound
  exact reads_commit_of_ne hE hexecuted hne

/-- So do procedures and functions. -/
theorem reads_call_of_ne {st : Stage σ} {bound : String} (hbound : st.bound = some bound)
    (hne : sectionNamespace id ≠ sectionNamespace bound) (name : String) (args : List Value) :
    reads E (sectionNamespace id) (call E name args st).2 =
      E.read (sectionNamespace id) (E.call name args st.engine).2 := by
  have hcalled : ({ st with engine := (E.call name args st.engine).2 } : Stage σ).bound =
      some bound := hbound
  exact reads_commit_of_ne hE hcalled hne

/-- Binding another section leaves a namespace alone. -/
theorem reads_rebind_of_ne {s : Section} (hne : sectionNamespace id ≠ sectionNamespace s.id)
    (st : Stage σ) :
    reads E (sectionNamespace id) (s.rebind E st) = reads E (sectionNamespace id) st :=
  (reads_bindSection_of_ne hE s.id s.visits hne (sectionNamespace_ne_alias id) _).trans
    (reads_put_of_ne hE (sectionNamespace_ne_scratch id) _ st)

end Stage

namespace Story

/-- While another section is entered, or while it is bound and code runs, nothing but that code
changes the namespace of a section. -/
structure Private (E : Engine σ) (id : String) (story : Story σ) : Prop where
  /-- Another section is entered, and its code is yet to run. -/
  handed {other : String} {s : Section} (hs : story.section? other = some s)
    (hother : ¬ LookAlike id other) :
    Stage.reads E (sectionNamespace id) (s.counted.rebind E story.stage) =
      Stage.reads E (sectionNamespace id) story.stage
  /-- Another section is entered, and its code has run. -/
  visited {other : String} {s : Section} (hs : story.section? other = some s)
    (hother : ¬ LookAlike id other) :
    Stage.reads E (sectionNamespace id) (story.perform E (.visit other)).stage =
      match s.run with
      | some code =>
        E.read (sectionNamespace id) (E.execute code (s.counted.rebind E story.stage).engine).2
      | none => Stage.reads E (sectionNamespace id) story.stage
  /-- Another section is bound, and an effect has run. -/
  ran {other : String} (hbound : story.stage.bound = some other) (hother : ¬ LookAlike id other)
    (code : String) :
    Stage.reads E (sectionNamespace id) (Stage.run E code story.stage).2 =
      E.read (sectionNamespace id) (E.execute code story.stage.engine).2
  /-- Another section is bound, and an event handler or a hook has run. -/
  called {other : String} (hbound : story.stage.bound = some other) (hother : ¬ LookAlike id other)
    (name : String) (args : List Value) :
    Stage.reads E (sectionNamespace id) (Stage.call E name args story.stage).2 =
      E.read (sectionNamespace id) (E.call name args story.stage.engine).2

theorem private_of_keyed (hE : E.Recalls) {story : Story σ} (hk : story.Keyed) (id : String) :
    Private E id story := by
  have hname {other : String} (hother : ¬ LookAlike id other) :
      sectionNamespace id ≠ sectionNamespace other :=
    fun heq => hother ((sectionNamespace_eq_iff id other).mp heq)
  have hhanded {other : String} {s : Section} (hs : story.section? other = some s)
      (hother : ¬ LookAlike id other) :
      Stage.reads E (sectionNamespace id) (s.counted.rebind E story.stage) =
        Stage.reads E (sectionNamespace id) story.stage := by
    refine Stage.reads_rebind_of_ne hE ?_ story.stage
    rw [Section.id_counted, hk other s hs]
    exact hname hother
  refine ⟨hhanded, fun {other s} hs hother => ?_, fun hbound hother code => ?_,
    fun hbound hother callee args => ?_⟩
  · rw [perform_visit hs]
    cases hrun : s.run with
    | none => exact hhanded hs hother
    | some code =>
      have hbound : (s.counted.rebind E story.stage).bound = some other := by
        rw [Section.bound_rebind, Section.id_counted, hk other s hs]
      exact Stage.reads_run_of_ne hE hbound (hname hother) code
  · exact Stage.reads_run_of_ne hE hbound (hname hother) code
  · exact Stage.reads_call_of_ne hE hbound (hname hother) callee args

/-- In a loaded story the namespace of a section holds the private variables that the document gives
to the section, or to another that looks alike. Whatever is played then, no section that does not
look alike changes it, unless a script does. -/
theorem namespaces_apart (hE : E.Recalls) {document : Document}
    (hnames : document.sections.names.Nodup) {engine : σ} {story : Story σ}
    (hload : (load E document engine).1 = .ok story) {id : String} {spec : SectionSpec}
    (h : (id, spec) ∈ document.sections) :
    (∀ other, sectionNamespace id = sectionNamespace other ↔ LookAlike id other) ∧
    (∃ last ∈ document.sections, LookAlike id last.1 ∧
      Stage.reads E (sectionNamespace id) story.stage =
        .ok (.record (Fields.sorted last.2.vars))) ∧
    ((∀ other ∈ document.sections.names, LookAlike id other → other = id) →
      Stage.reads E (sectionNamespace id) story.stage = .ok (.record (Fields.sorted spec.vars))) ∧
    ∀ operations, Private E id (story.play E operations) := by
  obtain ⟨loaded, hregister, rfl⟩ := load_ok hload
  refine ⟨sectionNamespace_eq_iff id, ?_, fun halone => ?_, fun operations => ?_⟩
  · obtain ⟨vars, hvars⟩ := Option.isSome_iff_exists.mp (Document.privatesOf_isSome h)
    obtain ⟨last, hmem, hname, rfl⟩ := Document.privatesOf_some hvars
    have hread := reads_registered hE hregister hvars
    exact ⟨last, hmem, (sectionNamespace_eq_iff id last.1).mp hname.symm, hread⟩
  · have hvars : document.privatesOf (sectionNamespace id) = some spec.vars := by
      refine Document.privatesOf_own h fun entry hmem hname => ?_
      have hsame := halone entry.1 (List.mem_map.mpr ⟨entry, hmem, rfl⟩)
        ((sectionNamespace_eq_iff id entry.1).mp hname.symm)
      exact List.inj_on_of_nodup_map hnames hmem h hsame
    have hread := reads_registered hE hregister hvars
    exact hread
  · have hkeyed := keyed_ofDocument document loaded
    exact private_of_keyed hE ((sameBook_play E _ operations).keyed hkeyed) id

/-- Two rooms with ids that look alike, and a yard. -/
def twins : Source Script.Interpreter :=
  ⟨"sections: \x7ba-b: \x7bvars: \x7bx: 1\x7d\x7d, a_b: \x7bvars: \x7bx: 2\x7d\x7d, " ++
    "yard: \x7bvars: \x7bx: 3\x7d\x7d\x7d", .seeded 1⟩

/-- The yard looks like neither of the rooms: it keeps what the document gives it while a room is
entered. -/
theorem namespaces_apart_yard :
    ∃ document story spec, Document.ofText twins.text = .ok document ∧
      (load Script.engine document twins.engine).1 = .ok story ∧
      ("yard", spec) ∈ document.sections ∧
      Stage.reads Script.engine (sectionNamespace "yard") story.stage =
        .ok (.record (Fields.sorted spec.vars)) ∧
      Private Script.engine "yard" (story.play Script.engine [.visit "a-b"]) := by
  have htest : ((twins.opened? Script.engine).any fun opened =>
      opened.1.sections.names == ["a-b", "a_b", "yard"]) = true := by decide +kernel
  obtain ⟨⟨document, story⟩, hopened, htest⟩ := (Option.any_eq_true ..).mp htest
  obtain ⟨hdocument, hload⟩ := Source.opened?_eq_some hopened
  have hsections : document.sections.names = ["a-b", "a_b", "yard"] := beq_iff_eq.mp htest
  obtain ⟨⟨id, spec⟩, hmem, hid⟩ := List.mem_map.mp
    (show "yard" ∈ document.sections.names by rw [hsections]; decide)
  obtain rfl : id = "yard" := hid
  have hnames : document.sections.names.Nodup := by rw [hsections]; decide
  have hapart := namespaces_apart Script.engine_stores.recalls hnames hload hmem
  refine ⟨document, story, spec, hdocument, hload, hmem, hapart.2.2.1 ?_, hapart.2.2.2 _⟩
  rw [hsections]
  intro other hother hlook
  rw [← sectionNamespace_eq_iff] at hlook
  revert other
  decide

/-- The rooms have one namespace, and the first of them starts with a variable of the other. -/
theorem twins_share_namespace :
    ∃ document story spec, Document.ofText twins.text = .ok document ∧
      document.check = .ok () ∧ document.sections.names = ["a-b", "a_b", "yard"] ∧
      sectionNamespace "a-b" = sectionNamespace "a_b" ∧
      (load Script.engine document twins.engine).1 = .ok story ∧
      ("a-b", spec) ∈ document.sections ∧
      Stage.reads Script.engine (sectionNamespace "a-b") story.stage ≠
        .ok (.record (Fields.sorted spec.vars)) := by
  have htest : ((twins.opened? Script.engine).any fun opened =>
      opened.1.sections.names == ["a-b", "a_b", "yard"] &&
      ((Stage.privates Script.engine "a-b" opened.2.stage).find? "x").bind Value.asInt? ==
        some 2 &&
      (opened.1.sections.find? "a-b").any (fun spec =>
        ((Fields.sorted spec.vars).find? "x").bind Value.asInt? == some 1)) = true := by
    decide +kernel
  obtain ⟨⟨document, story⟩, hopened, htest⟩ := (Option.any_eq_true ..).mp htest
  obtain ⟨hdocument, hload⟩ := Source.opened?_eq_some hopened
  simp only [Bool.and_eq_true, beq_iff_eq] at htest
  obtain ⟨⟨hnames, htwo⟩, hspec⟩ := htest
  obtain ⟨spec, hfind, hone⟩ := (Option.any_eq_true ..).mp hspec
  refine ⟨document, story, spec, hdocument, Document.check_of_ofText hdocument, hnames,
    by decide, hload, Fields.mem_of_find? hfind, fun hread => ?_⟩
  rw [Stage.privates_reads hread] at htwo
  rw [beq_iff_eq, htwo] at hone
  exact absurd hone (by decide)

end Story

end Gamebook
