import Gamebook.PlayerState
import Gamebook.Proofs.Json.Completing
import Gamebook.Proofs.SaveText

/-!
# Saves come back

A save that is written as JSON text is read back as it was, but for the numbers in it that are not
finite: JSON has no form for them, and they come back as nothing. So does a player state around it.
Three things are asked of the values inside: their records are sorted, as maps are; the reader gives
back each finite number in them as it was; and they are nested no deeper than the reader goes.

* `Value.finite` : the value without numbers that are not finite.
* `Value.Storable`, `Save.Storable` : what is asked of values, and of the values in a save.
* `PlayerState.comes_back` : saves and player states come back.
-/

namespace Gamebook

open Json (RecordPart Decodes Readable)

namespace Value

/-! ## Values -/

mutual

/-- The value with nothing in place of numbers that are not finite. -/
def finite : Value → Value
  | .number x => if x.isFinite then .number x else .nil
  | .list items => .list (finiteItems items)
  | .record fields => .record (finiteFields fields)
  | v => v

/-- The items of a list without numbers that are not finite. -/
def finiteItems : List Value → List Value
  | [] => []
  | v :: rest => finite v :: finiteItems rest

/-- The fields of a record without numbers that are not finite. -/
def finiteFields : List (String × Value) → List (String × Value)
  | [] => []
  | (name, v) :: rest => (name, finite v) :: finiteFields rest

end

theorem finiteFields_eq_map (fields : List (String × Value)) :
    finiteFields fields = fields.map (fun entry => (entry.1, entry.2.finite)) := by
  induction fields with
  | nil => rfl
  | cons entry rest ih => rw [finiteFields, ih, List.map_cons]

/-- Records are sorted, finite numbers come back as they were, and lists and records are nested no
deeper than this. -/
inductive Storable : Nat → Value → Prop where
  | nil (depth : Nat) : Storable depth .nil
  | bool (depth : Nat) (b : Bool) : Storable depth (.bool b)
  | int (depth : Nat) (n : Int64) : Storable depth (.int n)
  | number (depth : Nat) {x : Float} (h : x.isFinite = true → Json.rereadNumber x = some x) :
    Storable depth (.number x)
  | text (depth : Nat) (s : String) : Storable depth (.text s)
  | list {depth : Nat} {items : List Value} (h : ∀ v ∈ items, Storable depth v) :
    Storable (depth + 1) (.list items)
  | record {depth : Nat} {fields : List (String × Value)} (hsorted : Fields.Ascending fields)
    (h : ∀ entry ∈ fields, Storable depth entry.2) : Storable (depth + 1) (.record fields)

theorem rereadItems_eq_map (items : List Value) : rereadItems items = items.map reread := by
  induction items with
  | nil => rfl
  | cons v rest ih => rw [rereadItems, ih, List.map_cons]

theorem finiteItems_eq_map (items : List Value) : finiteItems items = items.map finite := by
  induction items with
  | nil => rfl
  | cons v rest ih => rw [finiteItems, ih, List.map_cons]

/-- A storable value comes back as it was, but for numbers that are not finite. -/
theorem Storable.reread {depth : Nat} {v : Value} (h : v.Storable depth) :
    v.reread = v.finite := by
  induction h with
  | nil | bool | int | text => rfl
  | @number depth x h =>
    rw [Value.reread, finite]
    split
    · next hx => rw [h hx, Option.getD_some]
    · rfl
  | @list depth items h ih =>
    rw [Value.reread, finite, rereadItems_eq_map, finiteItems_eq_map, List.map_congr_left ih]
  | @record depth fields hsorted h ih =>
    have hfields : rereadFields fields = finiteFields fields := by
      rw [rereadFields_eq_map, finiteFields_eq_map]
      exact List.map_congr_left fun entry hmem => by rw [ih entry hmem]
    have hascending : Fields.Ascending (finiteFields fields) := by
      rw [finiteFields_eq_map]
      exact List.pairwise_map.mpr hsorted
    rw [Value.reread, finite, hfields, Fields.sorted_of_ascending hascending]

end Value

namespace Json

theorem Readable.mono {depth depth' : Nat} {json : Json} (h : Readable depth json)
    (hle : depth ≤ depth') : Readable depth' json := by
  induction h generalizing depth' with
  | null => exact .null _
  | bool => exact .bool _ _
  | int => exact .int _ _
  | number _ h => exact .number _ h
  | text => exact .text _ _
  | array _ ih =>
    obtain ⟨depth', rfl⟩ := Nat.exists_eq_add_of_le' (Nat.one_le_of_lt (Nat.lt_of_succ_le hle))
    exact .array fun item hmem => ih item hmem (Nat.le_of_succ_le_succ hle)
  | object _ ih =>
    obtain ⟨depth', rfl⟩ := Nat.exists_eq_add_of_le' (Nat.one_le_of_lt (Nat.lt_of_succ_le hle))
    exact .object fun entry hmem => ih entry hmem (Nat.le_of_succ_le_succ hle)

theorem ofItems_eq_map (items : List Value) : ofItems items = items.map ofValue := by
  induction items with
  | nil => rfl
  | cons v rest ih => rw [ofItems, ih, List.map_cons]

theorem readable_ofValue {depth : Nat} {v : Value} (h : v.Storable depth) :
    Readable depth (ofValue v) := by
  induction h with
  | nil => exact .null _
  | bool => exact .bool _ _
  | int => exact .int _ _
  | number _ h => exact .number _ fun hx => by rw [h hx]; exact Option.some_ne_none _
  | text => exact .text _ _
  | list _ ih =>
    refine .array fun item hmem => ?_
    rw [ofItems_eq_map] at hmem
    obtain ⟨v, hv, rfl⟩ := List.mem_map.mp hmem
    exact ih v hv
  | record _ _ ih =>
    refine .object fun entry hmem => ?_
    rw [ofFields_eq_map] at hmem
    obtain ⟨field, hfield, rfl⟩ := List.mem_map.mp hmem
    exact ih field hfield

/-- What is written for parts is readable if each part is. -/
theorem readable_members {α : Type} {depth : Nat} {parts : List (RecordPart α)}
    (h : ∀ part ∈ parts, ∀ json, part.json = some json → Readable depth json) :
    Readable (depth + 1) (.object (RecordPart.members parts)) := by
  refine .object fun entry he => ?_
  obtain ⟨part, hpart, hentry⟩ := List.mem_filterMap.mp he
  obtain ⟨json, hjson, rfl⟩ := Option.map_eq_some_iff.mp hentry
  exact h part hpart json hjson

end Json

/-! ## Variables -/

namespace Variables

/-- The variables are sorted, and their values can be stored. -/
structure Storable (depth : Nat) (vars : Variables) : Prop where
  sorted : Fields.Ascending vars
  values : ∀ entry ∈ vars, entry.2.Storable depth

/-- The variables without numbers that are not finite. -/
def finite (vars : Variables) : Variables := vars.map (fun entry => (entry.1, entry.2.finite))

variable {depth : Nat} {vars : Variables}

theorem Storable.asRecord (h : Storable depth vars) : (Value.record vars).Storable (depth + 1) :=
  .record h.sorted h.values

theorem Storable.reread (h : Storable depth vars) : Json.rereadVariables vars = finite vars := by
  have hrecord := h.asRecord.reread
  rw [Value.reread, Value.finite, Value.finiteFields_eq_map] at hrecord
  exact Value.record.inj hrecord

theorem Storable.readable (h : Storable depth vars) :
    Readable (depth + 1) (Json.ofVariables vars) := Json.readable_ofValue h.asRecord

end Variables

/-! ## Progress and saves -/

/-- The private variables can be stored. -/
def Progress.Storable (depth : Nat) (progress : Progress) : Prop :=
  Variables.Storable depth progress.vars

/-- The progress without numbers that are not finite. -/
def Progress.finite (progress : Progress) : Progress :=
  { progress with vars := Variables.finite progress.vars }

/-- Variables and sections are sorted, and all values can be stored. -/
structure Save.Storable (depth : Nat) (save : Save) : Prop where
  globals : Variables.Storable depth save.globals
  sorted : Fields.Ascending save.sections
  sections : ∀ entry ∈ save.sections, entry.2.Storable depth

/-- The save without numbers that are not finite. -/
def Save.finite (save : Save) : Save :=
  { save with
    globals := Variables.finite save.globals
    sections := save.sections.map (fun entry => (entry.1, entry.2.finite)) }

variable {depth : Nat}

theorem Progress.Storable.reread {progress : Progress} (h : progress.Storable depth) :
    progress.reread = progress.finite := by
  rw [Progress.reread, Progress.finite, Variables.Storable.reread h]

theorem Progress.Storable.readable {progress : Progress} (h : progress.Storable depth) :
    Readable (depth + 2) progress.toJson := by
  rw [Progress.toJson_eq]
  refine Json.readable_members fun part hpart json hjson => ?_
  simp only [Progress.parts, List.mem_cons, List.not_mem_nil, or_false] at hpart
  rcases hpart with rfl | rfl | rfl
  · cases hjson
    exact .int _ _
  · dsimp only at hjson
    split at hjson
    · cases hjson
    · cases hjson
      refine .array fun item hitem => ?_
      obtain ⟨id, -, rfl⟩ := List.mem_map.mp hitem
      exact .text _ id
  · dsimp only at hjson
    split at hjson
    · cases hjson
    · cases hjson
      exact Variables.Storable.readable h

namespace Save

variable {save : Save}

theorem Storable.reread (h : save.Storable depth) : save.reread = save.finite := by
  have hsections : save.sections.map (fun entry => (entry.1, entry.2.reread)) =
      save.sections.map (fun entry => (entry.1, entry.2.finite)) :=
    List.map_congr_left fun entry hmem => by rw [(h.sections entry hmem).reread]
  have hascending : Fields.Ascending
      (save.sections.map (fun entry => (entry.1, entry.2.finite))) :=
    List.pairwise_map.mpr h.sorted
  rw [Save.reread, finite, h.globals.reread, hsections, Fields.sorted_of_ascending hascending]

theorem Storable.readable (h : save.Storable depth) : Readable (depth + 4) save.toJson := by
  rw [toJson_eq]
  refine Json.readable_members fun part hpart json hjson => ?_
  simp only [parts, List.mem_cons, List.not_mem_nil, or_false] at hpart
  rcases hpart with rfl | rfl | rfl | rfl | rfl | rfl
  · cases hjson; exact .text _ _
  · cases hjson; exact .text _ _
  · cases hjson; exact .text _ _
  · cases hjson
    exact h.globals.readable.mono (by omega)
  · dsimp only at hjson
    split at hjson
    · cases hjson
    · cases hjson
      refine .object fun entry he => ?_
      obtain ⟨entry, hentry, rfl⟩ := List.mem_map.mp he
      exact (h.sections entry hentry).readable
  · obtain ⟨dice, -, rfl⟩ := Option.map_eq_some_iff.mp hjson
    exact .int _ _

end Save

/-! ## Player states -/

namespace PlayerState

variable {state : PlayerState}

/-- The player state without numbers that are not finite. -/
def finite (state : PlayerState) : PlayerState := { state with save := state.save.finite }

/-- The parts of a written player state. -/
def parts (state : PlayerState) : List (RecordPart PlayerState) :=
  [⟨"schemaVersion", some (.text state.schema), fun r => { r with schema := state.schema }⟩,
    ⟨"storyRef", some (.text state.storyRef), fun r => { r with storyRef := state.storyRef }⟩,
    ⟨"seed", state.seed.map (fun seed => .int seed.toNat), fun r => { r with seed := state.seed }⟩,
    ⟨"save", some state.save.toJson, fun r => { r with save := state.save.reread }⟩]

theorem toJson_eq (state : PlayerState) :
    state.toJson = .object (RecordPart.members state.parts) := rfl

theorem apply_parts (state : PlayerState) :
    RecordPart.apply state.parts { schema := "", storyRef := "", save := Save.blank } =
      { state with save := state.save.reread } := by
  obtain ⟨schema, storyRef, seed, save⟩ := state
  cases seed <;> rfl

theorem fits_toJson (state : PlayerState) : state.toJson.Fits := by
  rw [toJson_eq]
  refine Json.fits_members fun part hpart json hjson => ?_
  simp only [parts, List.mem_cons, List.not_mem_nil, or_false] at hpart
  rcases hpart with rfl | rfl | rfl | rfl
  · cases hjson; exact .text _
  · cases hjson; exact .text _
  · obtain ⟨seed, -, rfl⟩ := Option.map_eq_some_iff.mp hjson
    exact Json.fits_word seed
  · cases hjson
    exact state.save.fits_toJson

theorem decodes_ofNode (state : PlayerState) :
    Decodes PlayerState.ofNode state.toJson { state with save := state.save.reread } := by
  rw [toJson_eq, ← apply_parts]
  have hset : ∀ part ∈ state.parts, ∀ json, part.json = some json → ∀ record,
      Decodes (PlayerState.set record part.name) json (part.update record) := by
    intro part hpart json hjson record
    simp only [parts, List.mem_cons, List.not_mem_nil, or_false] at hpart
    rcases hpart with rfl | rfl | rfl | rfl
    · cases hjson
      exact (Json.decodes_text _).map fun v => { record with schema := v }
    · cases hjson
      exact (Json.decodes_text _).map fun v => { record with storyRef := v }
    · obtain ⟨seed, hseed, rfl⟩ := Option.map_eq_some_iff.mp hjson
      dsimp only
      rw [hseed]
      exact (Json.decodes_word? seed).map fun v => { record with seed := v }
    · cases hjson
      exact (Save.decodes_ofNode _).map fun v => { record with save := v }
  exact Json.decodes_record (by simp [parts]) (by simp [parts, shape]) (by simp [parts, shape])
    hset _

theorem readable_toJson (h : state.save.Storable depth) :
    Readable (depth + 5) state.toJson := by
  rw [toJson_eq]
  refine Json.readable_members fun part hpart json hjson => ?_
  simp only [parts, List.mem_cons, List.not_mem_nil, or_false] at hpart
  rcases hpart with rfl | rfl | rfl | rfl
  · cases hjson; exact .text _ _
  · cases hjson; exact .text _ _
  · obtain ⟨seed, -, rfl⟩ := Option.map_eq_some_iff.mp hjson
    exact .int _ _
  · cases hjson
    exact h.readable

end PlayerState

/-- Both forms of a tree are read to their ends and decoded. -/
theorem Json.decodeWithin_forms {α : Type} {decoder : Json.Node → Json.Decoded α} {json : Json}
    {a : α} (h : Decodes decoder json a) (hfits : json.Fits) (hr : Readable depth json) :
    ∀ text ∈ [json.compact, json.indented], Json.decodeWithin depth text decoder = .ok a := by
  intro text htext
  simp only [List.mem_cons, List.not_mem_nil, or_false] at htext
  rcases htext with rfl | rfl
  · exact Json.decodeWithin_written h (Json.written_compact hfits) hr
  · exact Json.decodeWithin_written h (Json.written_indented hfits) hr

/-- Whatever values a save holds, it comes back from either form of its JSON text as it was, but for
numbers that are not finite: under any limit on nesting that leaves room for its values, and under
the limit in use. The same holds of a player state around it. -/
theorem PlayerState.comes_back (state : PlayerState) (h : state.save.Storable depth) :
    (∀ limit, depth + 4 ≤ limit → ∀ text ∈ [state.save.toJson.compact, state.save.toJson.indented],
      Json.decodeWithin limit text Save.ofNode = .ok state.save.finite ∧
      (limit = Json.depthLimit → Save.ofText text = .ok state.save.finite)) ∧
    (∀ limit, depth + 5 ≤ limit → ∀ text ∈ [state.toJson.compact, state.toJson.indented],
      Json.decodeWithin limit text PlayerState.ofNode = .ok state.finite ∧
      (limit = Json.depthLimit → PlayerState.ofText text = .ok state.finite)) := by
  constructor
  · intro limit hlimit text htext
    have hdecoded := Json.decodeWithin_forms state.save.decodes_ofNode state.save.fits_toJson
      (h.readable.mono hlimit) text htext
    rw [h.reread] at hdecoded
    exact ⟨hdecoded, by rintro rfl; exact hdecoded⟩
  · intro limit hlimit text htext
    have hdecoded := Json.decodeWithin_forms state.decodes_ofNode state.fits_toJson
      ((PlayerState.readable_toJson h).mono hlimit) text htext
    rw [h.reread] at hdecoded
    exact ⟨hdecoded, by rintro rfl; exact hdecoded⟩

/-- A state in the hall of a house, with a rope in the bag and a box in a box. -/
def keepsake : PlayerState where
  schema := PlayerState.currentSchema
  storyRef := "story-file:/house.yaml"
  save :=
    { schema := Save.currentSchema
      storyTitle := "House"
      sectionId := "hall"
      globals := [("bag", .list [.text "rope", .nil]),
        ("box", .record [("box", .record []), ("keys", .int 2), ("open", .bool false)])]
      sections := [("hall", { visits := 1 })]
      dice := some 0 }

/-- The state comes back, with its dice in state zero and without a seed. -/
theorem comes_back_keepsake :
    keepsake.save.Storable 2 ∧
      (∀ text ∈ [keepsake.toJson.compact, keepsake.toJson.indented],
        PlayerState.ofText text = .ok keepsake.finite) ∧
      keepsake.finite.save.dice = some 0 ∧ keepsake.finite.seed = none := by
  have hstorable : keepsake.save.Storable 2 := by
    refine ⟨⟨by decide, ?globals⟩, by decide, ?sections⟩
    case globals =>
      rintro entry hmem
      simp only [keepsake, List.mem_cons, List.not_mem_nil, or_false] at hmem
      rcases hmem with rfl | rfl
      · exact .list (by simp [Value.Storable.text, Value.Storable.nil])
      · exact .record (by decide) (by
          simp only [List.mem_cons, List.not_mem_nil, or_false]
          rintro _ (rfl | rfl | rfl)
          · exact .record (by decide) (by simp)
          · exact .int _ _
          · exact .bool _ _)
    case sections =>
      rintro entry hmem
      simp only [keepsake, List.mem_cons, List.not_mem_nil, or_false] at hmem
      subst hmem
      exact ⟨by decide, by simp⟩
  refine ⟨hstorable, fun text htext => ?_, rfl, rfl⟩
  exact ((PlayerState.comes_back keepsake hstorable).2 Json.depthLimit (by decide) text htext).2 rfl

end Gamebook
