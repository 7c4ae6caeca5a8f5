import Gamebook.Document.Parse
import Gamebook.Proofs.Failing
import Gamebook.Proofs.Fields

/-!
# Names in documents

A document that was read has no two variables, no two sections, and in no section two options of one
name, in whatever way it was written: a record whose text repeats a key is read with the last value.

* `Data.distinct_asFields` : fields that were read have distinct names.
* `Document.distinct_ofText` : so have the parts of a document.
-/

namespace Gamebook

namespace Data

/-- Fields that were read have distinct names, and each value was read from some data. -/
theorem distinct_asFields {α : Type} {d : Dialect} {read : Data → Except Misfit α} {data : Data}
    {fields : Fields α} (h : data.asFields d read = .ok fields) :
    fields.names.Nodup ∧ ∀ entry ∈ fields, ∃ part, read part = .ok entry.2 := by
  have hnil : (Fields.names ([] : Fields α)).Nodup ∧
      ∀ entry ∈ ([] : Fields α), ∃ part, read part = .ok entry.2 :=
    ⟨List.nodup_nil, by rintro entry ⟨⟩⟩
  unfold asFields at h
  split at h
  · refine foldlM_ok (fun fields : Fields α => fields.names.Nodup ∧
        ∀ entry ∈ fields, ∃ part, read part = .ok entry.2)
      (fun fields entry fields' hfields hstep => ?_) hnil h
    obtain ⟨key, value⟩ := entry
    obtain ⟨name, -, hstep⟩ := bind_ok hstep
    obtain ⟨v, hv, hstep⟩ := bind_ok hstep
    cases hstep
    refine ⟨Fields.nodup_names_put name v hfields.1, fun entry he => ?_⟩
    rcases Fields.mem_put he with rfl | he
    · exact ⟨value, hv⟩
    · exact hfields.2 entry he
  · split at h
    · cases h
      exact hnil
    · cases h
  · cases h

/-- What the steps of reading a record keep, the record has. -/
theorem readRecord_ok {σ : Type} (P : σ → Prop) {d : Dialect} {title : String}
    {names : List String} {data : Data} {start : σ}
    {step : σ → String → Data → Except Misfit σ}
    (hstep : ∀ state name value state', P state → step state name value = .ok state' → P state')
    (hstart : P start) {result : σ × List String}
    (h : readRecord d title names data start step = .ok result) : P result.1 := by
  unfold readRecord at h
  split at h
  · refine foldlM_ok (fun result : σ × List String => P result.1)
      (fun result entry result' hresult hentry => ?_) hstart h
    obtain ⟨key, value⟩ := entry
    obtain ⟨name, -, hentry⟩ := bind_ok hentry
    split at hentry
    · cases hentry
      exact hresult
    · split at hentry
      · cases hentry
      · obtain ⟨state, hstate, hentry⟩ := bind_ok hentry
        cases hentry
        exact hstep _ _ _ _ hresult hstate
  · split at h
    · obtain ⟨result', hitems, h⟩ := bind_ok h
      have hkept : P result'.1 := by
        refine foldlM_ok (fun result : σ × List String => P result.1)
          (fun result entry result' hresult hentry => ?_) hstart hitems
        obtain ⟨state, hstate, hentry⟩ := bind_ok hentry
        cases hentry
        exact hstep _ _ _ _ hresult hstate
      split at h
      · cases h
      · cases h
        exact hkept
    · cases h
  · split at h
    · cases h
      exact hstart
    · cases h
  · cases h

/-- The options of a section that was read have distinct ids. -/
theorem distinct_asSection {d : Dialect} {data : Data} {spec : SectionSpec}
    (h : data.asSection d = .ok spec) : spec.options.names.Nodup := by
  obtain ⟨⟨spec', seen⟩, hread, h⟩ := bind_ok h
  cases h
  have hempty : ({} : SectionSpec).options.names.Nodup := List.nodup_nil
  refine readRecord_ok (fun spec : SectionSpec => spec.options.names.Nodup)
    (fun spec name value spec' hspec hstep => ?_) hempty hread
  split at hstep
  all_goals
    obtain ⟨v, hv, rfl⟩ := map_ok hstep
  · exact hspec
  · exact hspec
  · exact hspec
  · exact hspec
  · exact (distinct_asFields hv).1

end Data

namespace Document

/-- Variables, sections and the options of each section have distinct names. -/
structure Distinct (document : Document) : Prop where
  vars : document.vars.names.Nodup
  sections : document.sections.names.Nodup
  options : ∀ entry ∈ document.sections, entry.2.options.names.Nodup

theorem distinct_ofData {d : Dialect} {data : Data} {document : Document}
    (h : Document.ofData d data = .ok document) : document.Distinct := by
  obtain ⟨⟨document', seen⟩, hread, h⟩ := bind_ok h
  have hempty : Distinct {} := ⟨List.nodup_nil, List.nodup_nil, by rintro entry ⟨⟩⟩
  have hdistinct : document'.Distinct := by
    refine Data.readRecord_ok Distinct (fun document name value document' hdocument hstep => ?_)
      hempty hread
    split at hstep
    all_goals
      obtain ⟨v, hv, rfl⟩ := map_ok hstep
    · exact ⟨hdocument.vars, hdocument.sections, hdocument.options⟩
    · exact ⟨hdocument.vars, hdocument.sections, hdocument.options⟩
    · exact ⟨hdocument.vars, hdocument.sections, hdocument.options⟩
    · exact ⟨(Data.distinct_asFields hv).1, hdocument.sections, hdocument.options⟩
    · exact ⟨hdocument.vars, hdocument.sections, hdocument.options⟩
    · exact ⟨hdocument.vars, hdocument.sections, hdocument.options⟩
    · exact ⟨hdocument.vars, hdocument.sections, hdocument.options⟩
    · obtain ⟨hnames, hread⟩ := Data.distinct_asFields hv
      refine ⟨hdocument.vars, hnames, fun entry he => ?_⟩
      obtain ⟨part, hpart⟩ := hread entry he
      exact Data.distinct_asSection hpart
  dsimp only at h
  split at h
  · cases h
    exact hdistinct
  · split at h <;> cases h

/-- A document that a text describes has distinct names. -/
theorem distinct_ofText {text : String} {document : Document}
    (h : Document.ofText text = .ok document) : document.Distinct := by
  obtain ⟨data, -, h⟩ := bind_ok h
  obtain ⟨document', hread, h⟩ := bind_ok h
  obtain ⟨⟨⟩, -, h⟩ := bind_ok h
  cases h
  exact distinct_ofData (mapError_ok hread)

end Document

end Gamebook
