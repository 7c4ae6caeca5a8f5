import Gamebook.Proofs.Script.Storing
import Gamebook.Proofs.Registering

/-!
# What the variables start as

A gamebook without opening code is loaded without running any script, so that a variable reads as
the last value that was written to it. The declared variables are written first, then the reserved
names and the namespaces of the sections. So a declared variable starts as it is written in the
document, unless its name is one of those.

* `Document.runsScript_calls`, `Document.written_calls` : what loading does without opening code.
* `Document.startValue` : what a declared variable starts as.
* `Story.snapshot_loaded` : the declared variables of a loaded story.
-/

namespace Gamebook

open Script

variable {σ : Type} {E : Engine σ}

/-- The call runs code of a gamebook. -/
def EngineCall.runsScript : EngineCall → Bool
  | .execute _ | .evaluate _ | .call _ _ => true
  | _ => false

/-- The reserved variables as loading declares them. -/
def Stage.primed : Variables :=
  [(scratchName, .record []), (redirectName, .nil), (aliasName, .record [])]

namespace Document

/-! ## What loading writes -/

/-- What loading writes after the declared variables: the reserved variables and the namespaces. -/
def reserved (document : Document) : Variables :=
  Stage.primed ++ document.sections.map
    (fun (id, spec) => (sectionNamespace id, .record (Fields.sorted spec.vars)))

/-- What a declared variable of some value starts as: a namespace holds the private variables of its
last section, and a reserved variable is what it is declared as. -/
def startValue (document : Document) (name : String) (value : Value) : Value :=
  match document.privatesOf name with
  | some vars => .record (Fields.sorted vars)
  | none => (Stage.primed.find? name).getD value

variable {document : Document}

/-- What loading has written last under a name. -/
theorem find?_reserved_reverse (document : Document) (name : String) (value : Value) :
    (Fields.find? name document.reserved.reverse).getD value = document.startValue name value := by
  have hprimed : Fields.find? name Stage.primed.reverse = Stage.primed.find? name :=
    Fields.find?_reverse name (by decide)
  rw [reserved, List.reverse_append, Fields.find?_append, ← List.map_reverse, find?_namespaces,
    hprimed, startValue, privatesOf]
  cases List.find? (fun entry => sectionNamespace entry.1 = name) document.sections.reverse <;> rfl

/-- A name that is not reserved starts as it is written. -/
theorem startValue_of_not_mem {name : String} (h : name ∉ document.reserved.names)
    (value : Value) : document.startValue name value = value := by
  rw [← Fields.mem_names_reverse, ← Fields.find?_eq_none_iff] at h
  rw [← find?_reserved_reverse, h]
  rfl

/-- Without opening code, loading writes the declared variables and then the reserved names. -/
theorem written_calls (h : document.init.bind Text.nonBlank = none) :
    document.calls.filterMap EngineCall.written? = document.vars ++ document.reserved := by
  have hevents : document.events.filterMap (fun _ => (none : Option (String × Value))) = [] :=
    List.filterMap_eq_nil_iff.mpr fun _ _ => rfl
  have hhooks : document.hooks.filterMap (fun _ => (none : Option (String × Value))) = [] :=
    List.filterMap_eq_nil_iff.mpr fun _ _ => rfl
  rw [calls, registration, h]
  simp only [List.map_append, List.map_map, List.filterMap_append, List.filterMap_map,
    Function.comp_def, EngineCall.written?, List.filterMap_eq_map', Prod.eta, hevents, hhooks]
  simp only [reserved, Option.toList_none, List.filterMap_nil, List.filterMap_some,
    List.append_nil, List.append_assoc]
  rfl

/-- Without opening code, loading runs no script. -/
theorem runsScript_calls (h : document.init.bind Text.nonBlank = none) :
    ∀ call ∈ document.calls, call.runsScript = false := by
  rw [calls, List.forall_mem_map, registration, h]
  simp only [List.forall_mem_append, List.forall_mem_map, List.forall_mem_cons]
  simp [EngineCall.runsScript]

end Document

/-- A call that neither runs a script nor writes leaves what the interpreter reads as it was. -/
theorem Script.Interpreter.read_perform {call : EngineCall} (hscript : call.runsScript = false)
    (hwritten : call.written? = none) (name : String) (it : Interpreter) :
    (engine.perform call it).2.read name = it.read name := by
  cases call with
  | execute | evaluate | call => cases hscript
  | write => cases hwritten
  | define function params body =>
    change (Interpreter.define function params body it).2.read name = _
    unfold Interpreter.define
    split <;> rfl
  | addHelpers => rfl
  | setDice dice => rfl

namespace Story

variable {document : Document} {engine : Script.Interpreter} {story : Story Script.Interpreter}

/-- A declared variable reads in a loaded story as what it starts as. -/
theorem valueOf_loaded (hvars : document.vars.names.Nodup)
    (hinit : document.init.bind Text.nonBlank = none)
    (hload : (load Script.engine document engine).1 = .ok story) {name : String} {value : Value}
    (hvalue : document.vars.find? name = some value) :
    Stage.valueOf Script.engine name story.stage = document.startValue name value := by
  obtain ⟨loaded, hregister, rfl⟩ := load_ok hload
  have hpasses := passes_registered hregister
  refine Stage.valueOf_reads ?_
  change Script.engine.read name loaded = _
  rw [hpasses.read_last Script.engine_stores.recalls fun call hmem hwritten state =>
    Script.Interpreter.read_perform (Document.runsScript_calls hinit call hmem) hwritten name state]
  rw [Document.written_calls hinit, List.reverse_append, Fields.find?_append,
    Fields.find?_reverse name hvars, hvalue, ← Document.find?_reserved_reverse]
  cases Fields.find? name document.reserved.reverse <;> rfl

/-- A gamebook without opening code starts with its declared variables as they are written. Those of
a reserved name hold what loading has written there after them. -/
theorem snapshot_loaded (hvars : document.vars.names.Nodup)
    (hinit : document.init.bind Text.nonBlank = none)
    (hload : (load Script.engine document engine).1 = .ok story) (name : String) :
    (story.snapshot Script.engine).find? name =
      (document.vars.find? name).map (document.startValue name) ∧
    (name ∉ document.reserved.names →
      (story.snapshot Script.engine).find? name = document.vars.find? name) := by
  have hroster : story.roster = document.vars.names := by
    obtain ⟨loaded, -, rfl⟩ := load_ok hload
    rfl
  have hstarts : (story.snapshot Script.engine).find? name =
      (document.vars.find? name).map (document.startValue name) := by
    rw [find?_snapshot, hroster]
    cases hfind : document.vars.find? name with
    | none => rw [if_neg (Fields.find?_eq_none_iff.mp hfind), Option.map_none]
    | some value =>
      rw [if_pos (Fields.has_iff.mp (by rw [Fields.has_eq_isSome, hfind]; rfl)),
        valueOf_loaded hvars hinit hload hfind, Option.map_some]
  refine ⟨hstarts, fun hfree => ?_⟩
  rw [hstarts]
  cases document.vars.find? name with
  | none => rfl
  | some value => rw [Option.map_some, Document.startValue_of_not_mem hfree]

/-- A hall in a gamebook that declares some gold, and a variable of a reserved name. -/
def paidHall : Source Interpreter :=
  ⟨"vars: \x7bgold: 3, temp: 5\x7d\nsections: \x7bhall: \x7b\x7d\x7d", .seeded 1⟩

/-- The hall starts with its gold. -/
theorem gold_starts_as_written :
    ∃ document story, Document.ofText paidHall.text = .ok document ∧
      (load Script.engine document paidHall.engine).1 = .ok story ∧
      "gold" ∈ document.vars.names ∧
      (story.snapshot Script.engine).find? "gold" = document.vars.find? "gold" := by
  have htest : ((paidHall.opened? Script.engine).any fun opened =>
      decide opened.1.vars.names.Nodup && (opened.1.init.bind Text.nonBlank).isNone &&
      decide ("gold" ∈ opened.1.vars.names) && decide ("gold" ∉ opened.1.reserved.names)) =
        true := by
    decide +kernel
  obtain ⟨⟨document, story⟩, hopened, htest⟩ := (Option.any_eq_true ..).mp htest
  obtain ⟨hdocument, hload⟩ := Source.opened?_eq_some hopened
  simp only [Bool.and_eq_true, decide_eq_true_eq, Option.isNone_iff_eq_none] at htest
  obtain ⟨⟨⟨hvars, hinit⟩, hgold⟩, hfree⟩ := htest
  exact ⟨document, story, hdocument, hload, hgold,
    (snapshot_loaded hvars hinit hload "gold").2 hfree⟩

/-- A declared variable of a reserved name does not start as it is written. -/
theorem scratch_starts_empty :
    ∃ document story value, Document.ofText paidHall.text = .ok document ∧
      document.check = .ok () ∧ document.init = none ∧
      (load Script.engine document paidHall.engine).1 = .ok story ∧
      document.vars.find? "temp" = some value ∧
      (story.snapshot Script.engine).find? "temp" ≠ some value := by
  have htest : ((paidHall.opened? Script.engine).any fun opened =>
      opened.1.init.isNone &&
      (opened.1.vars.find? "temp").any (fun value => value.asInt?.isSome) &&
      ((opened.2.snapshot Script.engine).find? "temp").any fun value => value.asInt?.isNone) =
        true := by
    decide +kernel
  obtain ⟨⟨document, story⟩, hopened, htest⟩ := (Option.any_eq_true ..).mp htest
  obtain ⟨hdocument, hload⟩ := Source.opened?_eq_some hopened
  simp only [Bool.and_eq_true, Option.isNone_iff_eq_none, Option.any_eq_true] at htest
  obtain ⟨⟨hinit, value, hvalue, hwritten⟩, started, hstarted, hread⟩ := htest
  refine ⟨document, story, value, hdocument, Document.check_of_ofText hdocument, hinit, hload,
    hvalue, fun hsame => ?_⟩
  obtain rfl : started = value := Option.some.inj (hstarted.symm.trans hsame)
  rw [hread] at hwritten
  cases hwritten

end Story

end Gamebook
