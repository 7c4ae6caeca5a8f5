import Gamebook.Proofs.LoadCalls
import Gamebook.Proofs.Loading
import Gamebook.Proofs.Stores

/-!
# What registering leaves in the engine

A document is registered call by call, and its sections come last: each opens its namespace with the
private variables that it starts with. Sections whose ids become the same name share a namespace,
which then holds the variables of the last of them.

* `Engine.Passes.read_last` : the last write counts.
* `Story.reads_registered` : what the namespaces read as in a loaded story.
* `Story.register_keeps` : what every call of loading keeps, loading keeps.
-/

namespace Gamebook

variable {σ : Type} {E : Engine σ}

/-! ## The last write counts -/

/-- The variable that a call writes, with its value. -/
def EngineCall.written? : EngineCall → Option (String × Value)
  | .write name value => some (name, value)
  | _ => none

/-- After calls that have succeeded a variable reads as the last value that was written to it, if
the calls that write nothing leave it alone. -/
theorem Engine.Passes.read_last (hE : E.Recalls) {calls : List EngineCall} {before after : σ}
    (h : E.Passes calls before after) {name : String}
    (hother : ∀ call ∈ calls, call.written? = none →
      ∀ state, E.read name (E.perform call state).2 = E.read name state) :
    E.read name after =
      match Fields.find? name (calls.filterMap EngineCall.written?).reverse with
      | some value => .ok value
      | none => E.read name before := by
  induction h with
  | nil => rfl
  | @cons call calls first middle last hcall hrest ih =>
    rw [ih fun call hmem => hother call (List.mem_cons_of_mem _ hmem), List.filterMap_cons]
    have hread := hother call List.mem_cons_self
    cases hwritten : call.written? with
    | none =>
      specialize hread hwritten first
      rw [hcall] at hread
      rw [hread]
    | some entry =>
      rw [List.reverse_cons, Fields.find?_append]
      cases Fields.find? name (calls.filterMap EngineCall.written?).reverse with
      | some value => rfl
      | none =>
        cases call <;> cases hwritten
        next written value =>
        change E.write written value first = _ at hcall
        rw [Option.none_or, Fields.find?_cons]
        by_cases hname : written = name
        · subst hname
          rw [if_pos rfl]
          exact hE.read_written hcall
        · have hkept := hE.read_other (Ne.symm hname) value first
          rw [if_neg hname]
          rwa [hcall] at hkept

/-! ## Namespaces in documents -/

/-- The private variables that a namespace starts with: those of the last section that has it. -/
def Document.privatesOf (document : Document) (name : String) : Option Variables :=
  (List.find? (fun entry => sectionNamespace entry.1 = name) document.sections.reverse).map
    (fun entry => entry.2.vars)

theorem Document.privatesOf_isSome {document : Document} {id : String} {spec : SectionSpec}
    (h : (id, spec) ∈ document.sections) :
    (document.privatesOf (sectionNamespace id)).isSome = true := by
  rw [privatesOf, Option.isSome_map, List.find?_isSome]
  exact ⟨_, List.mem_reverse.mpr h, by simp⟩

theorem Document.privatesOf_some {document : Document} {name : String} {vars : Variables}
    (h : document.privatesOf name = some vars) :
    ∃ entry ∈ document.sections, sectionNamespace entry.1 = name ∧ entry.2.vars = vars := by
  obtain ⟨entry, hfind, rfl⟩ := Option.map_eq_some_iff.mp h
  refine ⟨entry, List.mem_reverse.mp (List.mem_of_find?_eq_some hfind), ?_, rfl⟩
  simpa using List.find?_some hfind

/-- A section that shares its namespace with no other has its own private variables there. -/
theorem Document.privatesOf_own {document : Document} {id : String} {spec : SectionSpec}
    (h : (id, spec) ∈ document.sections)
    (hown : ∀ entry ∈ document.sections, sectionNamespace entry.1 = sectionNamespace id →
      entry = (id, spec)) :
    document.privatesOf (sectionNamespace id) = some spec.vars := by
  obtain ⟨vars, hvars⟩ := Option.isSome_iff_exists.mp (privatesOf_isSome h)
  obtain ⟨entry, hmem, hname, rfl⟩ := privatesOf_some hvars
  rw [hvars, hown entry hmem hname]

/-- Where namespaces are opened in this order, the look-up of a name finds the first that has it. -/
theorem Document.find?_namespaces (sections : Fields SectionSpec) (name : String) :
    Fields.find? name (sections.map
      (fun entry => (sectionNamespace entry.1, Value.record (Fields.sorted entry.2.vars)))) =
    (List.find? (fun entry => sectionNamespace entry.1 = name) sections).map
      (fun entry => .record (Fields.sorted entry.2.vars)) := by
  induction sections with
  | nil => rfl
  | cons entry rest ih =>
    rw [List.map_cons, Fields.find?_cons, List.find?_cons]
    by_cases hname : sectionNamespace entry.1 = name
    · simp [hname]
    · simp [hname, ih]

/-- Loading ends with opening the namespaces. -/
theorem Document.calls_eq (document : Document) : ∃ earlier, document.calls = earlier ++
    document.sections.map (fun entry =>
      .write (sectionNamespace entry.1) (.record (Fields.sorted entry.2.vars))) := by
  rw [calls, registration, List.map_append, List.map_map]
  exact ⟨_, rfl⟩

namespace Story

/-- In a loaded story the namespace of a section holds what the document gives it. -/
theorem reads_registered (hE : E.Recalls) {document : Document} {before after : σ}
    (h : register E document before = (.ok (), after)) {name : String} {vars : Variables}
    (hvars : document.privatesOf name = some vars) :
    E.read name after = .ok (.record (Fields.sorted vars)) := by
  obtain ⟨earlier, hcalls⟩ := document.calls_eq
  obtain ⟨middle, -, hopened⟩ := Engine.Passes.of_append (hcalls ▸ passes_registered h)
  obtain ⟨entry, hentry, rfl⟩ := Option.map_eq_some_iff.mp hvars
  have hread : E.read name after = _ := hopened.read_last hE fun call hcall hnone => by
    obtain ⟨entry, -, rfl⟩ := List.mem_map.mp hcall
    cases hnone
  rw [hread, List.filterMap_map]
  simp only [Function.comp_def, EngineCall.written?, List.filterMap_eq_map']
  rw [← List.map_reverse, Document.find?_namespaces, hentry]
  rfl

/-- What writing variables, the helpers, the opening code and the definitions of a gamebook keep,
its registration keeps. -/
theorem register_keeps {P : σ → Prop} {document : Document} {before after : σ}
    (hwrite : ∀ name value state, P state → P (E.write name value state).2)
    (hhelpers : ∀ state, P state → P (E.addHelpers state).2)
    (hopening : ∀ code, document.init.bind Text.nonBlank = some code →
      ∀ state, P state → P (E.execute code state).2)
    (hevents : ∀ entry ∈ document.events, ∀ state, P state →
      P (E.define (eventFunction entry.1) entry.2.params entry.2.run state).2)
    (hhooks : ∀ entry ∈ document.hooks, ∀ state, P state →
      P (E.define (hookFunction entry.1) [] entry.2.run state).2)
    (h : register E document before = (.ok (), after)) (hbefore : P before) : P after := by
  have hperform : ∀ item ∈ document.registration, ∀ state, P state →
      P (E.perform item.2 state).2 := by
    simp only [Document.registration, List.forall_mem_append, List.forall_mem_map,
      List.forall_mem_cons, Option.mem_toList]
    exact ⟨⟨⟨⟨⟨fun entry _ => hwrite _ _, hhelpers, hwrite _ _, hwrite _ _, hwrite _ _,
      List.forall_mem_nil _⟩,
      hopening⟩, hevents⟩, hhooks⟩, fun entry _ => hwrite _ _⟩
  exact (passes_registered h).keeps (List.forall_mem_map.mpr hperform) hbefore

end Story

end Gamebook
