import Gamebook.Proofs.Fields
import Gamebook.Proofs.Json.Decoding
import Gamebook.Save.Text

/-!
# Reading back saves

A save that is written as JSON text and read again, if it can be read, is `Save.reread` of itself:
everything is as it was, but for the floats among the variables, and maps are sorted.

* `Save.ofText_written` : what reading a written save gives.
* `Save.ofText_compact`, `Save.ofText_indented` : for the two forms in use.
-/

namespace Gamebook

open Json (RecordPart Decodes Written)

/-- The variables that come back. -/
def Json.rereadVariables (vars : Variables) : Variables :=
  Fields.sorted (Value.rereadFields vars)

theorem Json.decodes_variables (vars : Variables) :
    Decodes Json.Node.asVariables (Json.ofVariables vars) (Json.rereadVariables vars) := by
  rw [Json.ofVariables, Json.ofFields_eq_map, Json.rereadVariables, Value.rereadFields_eq_map]
  exact Json.decodes_map fun entry _ => Json.decodes_value entry.2

theorem Json.fits_ofVariables (vars : Variables) : (Json.ofVariables vars).Fits :=
  .object (Json.fits_ofFields vars)

/-- What is written for parts fits if each part does. -/
theorem Json.fits_members {α : Type} {parts : List (RecordPart α)}
    (h : ∀ part ∈ parts, ∀ json, part.json = some json → json.Fits) :
    (Json.object (RecordPart.members parts)).Fits := by
  refine .object fun entry he => ?_
  obtain ⟨part, hpart, hentry⟩ := List.mem_filterMap.mp he
  obtain ⟨json, hjson, rfl⟩ := Option.map_eq_some_iff.mp hentry
  exact h part hpart json hjson

theorem Json.fits_word (n : UInt32) : (Json.int n.toNat).Fits := by
  have hlt := n.toNat_lt
  exact .int (by omega) (by omega)

/-! ## Progress -/

namespace Progress

/-- The progress that comes back. -/
def reread (progress : Progress) : Progress :=
  { progress with vars := Json.rereadVariables progress.vars }

/-- The parts of written progress. -/
def parts (progress : Progress) : List (RecordPart Progress) :=
  [⟨"visits", some (.int progress.visits.toNat), fun r => { r with visits := progress.visits }⟩,
    ⟨"hiddenOptions",
      if progress.hiddenOptions.isEmpty then none
      else some (.array (progress.hiddenOptions.map .text)),
      fun r => { r with hiddenOptions := progress.hiddenOptions }⟩,
    ⟨"vars", if progress.vars.isEmpty then none else some (Json.ofVariables progress.vars),
      fun r => { r with vars := Json.rereadVariables progress.vars }⟩]

theorem toJson_eq (progress : Progress) :
    progress.toJson = .object (RecordPart.members progress.parts) := rfl

theorem apply_parts (progress : Progress) :
    RecordPart.apply progress.parts { visits := 0 } = progress.reread := by
  obtain ⟨visits, hidden, vars⟩ := progress
  cases hidden <;> cases vars <;> rfl

theorem fits_toJson (progress : Progress) : progress.toJson.Fits := by
  rw [toJson_eq]
  refine Json.fits_members fun part hpart json hjson => ?_
  simp only [parts, List.mem_cons, List.not_mem_nil, or_false] at hpart
  rcases hpart with rfl | rfl | rfl
  · cases hjson
    exact Json.fits_word _
  · dsimp only at hjson
    split at hjson
    · cases hjson
    · cases hjson
      refine .array fun item hitem => ?_
      obtain ⟨id, -, rfl⟩ := List.mem_map.mp hitem
      exact .text id
  · dsimp only at hjson
    split at hjson
    · cases hjson
    · cases hjson
      exact Json.fits_ofVariables _

theorem decodes_ofNode (progress : Progress) :
    Decodes Progress.ofNode progress.toJson progress.reread := by
  rw [toJson_eq, ← apply_parts]
  have hset : ∀ part ∈ progress.parts, ∀ json, part.json = some json → ∀ record,
      Decodes (Progress.set record part.name) json (part.update record) := by
    intro part hpart json hjson record
    simp only [parts, List.mem_cons, List.not_mem_nil, or_false] at hpart
    rcases hpart with rfl | rfl | rfl
    · cases hjson
      exact (Json.decodes_word _).map fun v => { record with visits := v }
    · dsimp only at hjson
      split at hjson
      · cases hjson
      · cases hjson
        exact (Json.decodes_list fun id _ => Json.decodes_text id).map
          fun v => { record with hiddenOptions := v }
    · dsimp only at hjson
      split at hjson
      · cases hjson
      · cases hjson
        exact (Json.decodes_variables _).map fun v => { record with vars := v }
  exact Json.decodes_record (by simp [parts]) (by simp [parts, shape]) (by simp [parts, shape])
    hset { visits := 0 }

end Progress

/-! ## Saves -/

namespace Save

/-- The save that comes back. -/
def reread (save : Save) : Save :=
  { save with
    globals := Json.rereadVariables save.globals
    sections := Fields.sorted (save.sections.map (fun entry => (entry.1, entry.2.reread))) }

/-- The parts of a written save. -/
def parts (save : Save) : List (RecordPart Save) :=
  [⟨"schemaVersion", some (.text save.schema), fun r => { r with schema := save.schema }⟩,
    ⟨"storyTitle", some (.text save.storyTitle), fun r => { r with storyTitle := save.storyTitle }⟩,
    ⟨"sectionId", some (.text save.sectionId), fun r => { r with sectionId := save.sectionId }⟩,
    ⟨"globals", some (Json.ofVariables save.globals),
      fun r => { r with globals := Json.rereadVariables save.globals }⟩,
    ⟨"sections",
      if save.sections.isEmpty then none
      else some (.object (save.sections.map (fun entry => (entry.1, entry.2.toJson)))),
      fun r => { r with sections := save.reread.sections }⟩,
    ⟨"rngState", save.dice.map (fun dice => .int dice.toNat),
      fun r => { r with dice := save.dice }⟩]

theorem toJson_eq (save : Save) : save.toJson = .object (RecordPart.members save.parts) := rfl

theorem apply_parts (save : Save) : RecordPart.apply save.parts blank = save.reread := by
  obtain ⟨schema, title, id, globals, sections, dice⟩ := save
  cases sections <;> cases dice <;> rfl

theorem fits_toJson (save : Save) : save.toJson.Fits := by
  rw [toJson_eq]
  refine Json.fits_members fun part hpart json hjson => ?_
  simp only [parts, List.mem_cons, List.not_mem_nil, or_false] at hpart
  rcases hpart with rfl | rfl | rfl | rfl | rfl | rfl
  · cases hjson; exact .text _
  · cases hjson; exact .text _
  · cases hjson; exact .text _
  · cases hjson; exact Json.fits_ofVariables _
  · dsimp only at hjson
    split at hjson
    · cases hjson
    · cases hjson
      refine .object fun entry he => ?_
      obtain ⟨⟨id, progress⟩, -, rfl⟩ := List.mem_map.mp he
      exact progress.fits_toJson
  · obtain ⟨dice, -, rfl⟩ := Option.map_eq_some_iff.mp hjson
    exact Json.fits_word dice

theorem decodes_ofNode (save : Save) : Decodes Save.ofNode save.toJson save.reread := by
  rw [toJson_eq, ← apply_parts]
  have hset : ∀ part ∈ save.parts, ∀ json, part.json = some json → ∀ record,
      Decodes (Save.set record part.name) json (part.update record) := by
    intro part hpart json hjson record
    simp only [parts, List.mem_cons, List.not_mem_nil, or_false] at hpart
    rcases hpart with rfl | rfl | rfl | rfl | rfl | rfl
    · cases hjson
      exact (Json.decodes_text _).map fun v => { record with schema := v }
    · cases hjson
      exact (Json.decodes_text _).map fun v => { record with storyTitle := v }
    · cases hjson
      exact (Json.decodes_text _).map fun v => { record with sectionId := v }
    · cases hjson
      exact (Json.decodes_variables _).map fun v => { record with globals := v }
    · dsimp only at hjson
      split at hjson
      · cases hjson
      · cases hjson
        exact (Json.decodes_map fun entry _ => Progress.decodes_ofNode entry.2).map
          fun v => { record with sections := v }
    · obtain ⟨dice, hdice, rfl⟩ := Option.map_eq_some_iff.mp hjson
      dsimp only
      rw [hdice]
      exact (Json.decodes_word? dice).map fun v => { record with dice := v }
  exact Json.decodes_record (by simp [parts]) (by simp [parts, shape]) (by simp [parts, shape])
    hset blank

/-- A save that is read from a text that was written for one. -/
theorem ofText_written {save save' : Save} {text : String} (ht : Written save.toJson text.toList)
    (h : Save.ofText text = .ok save') : save' = save.reread :=
  Json.decode_written save.decodes_ofNode ht h

theorem ofText_compact {save save' : Save} (h : Save.ofText save.toJson.compact = .ok save') :
    save' = save.reread := ofText_written (Json.written_compact save.fits_toJson) h

theorem ofText_indented {save save' : Save} (h : Save.ofText save.toJson.indented = .ok save') :
    save' = save.reread := ofText_written (Json.written_indented save.fits_toJson) h

end Save

end Gamebook
