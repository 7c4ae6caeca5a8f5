import Gamebook.Proofs.Calls
import Gamebook.Story

/-!
# The calls that load a gamebook

A document is registered by a fixed sequence of calls: the variables, the helpers, the reserved
names, the opening code, the events, the hooks, and the namespaces of the sections. Loading makes
these calls in their order and stops at the first that fails.

* `Document.registration` : the calls, each with its step of loading.
* `Story.register_eq` : registering makes these calls.
* `Story.forM_ok_iff`, `Story.forM_error_iff` : a sequence that is made up to its end, or cut.
* `Story.Loads` : the three ways in which loading ends, with the calls that it has made.
* `Story.load_sequence` : what loading asks of its engine, and what it ends with.
-/

namespace Gamebook

variable {σ : Type} {E : Engine σ}

namespace Document

/-- The calls that register a document, in their order, each with its step of loading. -/
def registration (document : Document) : List (LoadPhase × EngineCall) :=
  document.vars.map (fun (name, value) => (.global name, .write name value)) ++
  [(.helpers, .addHelpers),
    (.reserved, .write Stage.scratchName (.record [])),
    (.reserved, .write Stage.redirectName .nil),
    (.reserved, .write Stage.aliasName (.record []))] ++
  (document.init.bind Text.nonBlank).toList.map (fun code => (.opening, .execute code)) ++
  document.events.map
    (fun (id, event) => (.event id, .define (eventFunction id) event.params event.run)) ++
  document.hooks.map (fun (id, hook) => (.hook id, .define (hookFunction id) [] hook.run)) ++
  document.sections.map (fun (id, spec) =>
    (.privates id, .write (sectionNamespace id) (.record (Fields.sorted spec.vars))))

/-- The calls of the registration. -/
def calls (document : Document) : List EngineCall := document.registration.map Prod.snd

end Document

namespace Story

/-- Makes a call in a step of loading. -/
def making (E : Engine σ) : LoadPhase × EngineCall → Loading σ Unit
  | (phase, call) => during phase (E.perform call)

/-! ## Registering -/

/-- What the opening code gives does not matter to loading. -/
theorem during_execute (E : Engine σ) (code : String) :
    during .opening (E.execute code) = making E (.opening, .execute code) := by
  funext state
  rw [making, during, during, Engine.perform_execute]
  rcases E.execute code state with ⟨⟨⟩ | ⟨⟩, after⟩ <;> rfl

/-- An operation that goes on only if its first part succeeds is two operations of one step. -/
theorem during_andThen (phase : LoadPhase) (first last : σ → Except Fault Unit × σ) :
    during phase (fun state => match first state with
      | (.error fault, after) => (.error fault, after)
      | (.ok (), after) => last after) =
    (during phase first >>= fun _ => during phase last) := by
  funext state
  simp only [bind, ExceptT.bind, ExceptT.mk, StateT.bind, during]
  rcases first state with ⟨⟨⟩ | ⟨⟩, after⟩ <;> rfl

/-- Declaring the reserved names takes three calls. -/
theorem during_prime (E : Engine σ) : during .reserved (onEngine (Stage.prime E)) =
    [(.reserved, .write Stage.scratchName (.record [])),
      (.reserved, .write Stage.redirectName .nil),
      (.reserved, .write Stage.aliasName (.record []))].forM (making E) := by
  have hprime : onEngine (Stage.prime E) = fun state =>
      match E.write Stage.scratchName (.record []) state with
      | (.error fault, after) => (.error fault, after)
      | (.ok (), after) => match E.write Stage.redirectName .nil after with
        | (.error fault, after) => (.error fault, after)
        | (.ok (), after) => E.write Stage.aliasName (.record []) after := by
    funext state
    simp only [onEngine, Stage.prime, Stage.write]
    rcases E.write Stage.scratchName (.record []) state with ⟨⟨⟩ | ⟨⟩, first⟩
    · rfl
    · dsimp only
      rcases E.write Stage.redirectName .nil first with ⟨⟨⟩ | ⟨⟩, second⟩ <;> rfl
  rw [hprime, during_andThen, during_andThen]
  simp only [List.forM_eq_forM, List.forM_cons, List.forM_nil, bind_pure_unit]
  rfl

/-- Registering a document makes its calls. -/
theorem register_eq (E : Engine σ) (document : Document) :
    register E document = document.registration.forM (making E) := by
  unfold register Document.registration
  rw [during_prime]
  simp only [List.forM_eq_forM, List.forM_append, List.forM_map, List.forM_cons, List.forM_nil,
    bind_assoc, bind_pure_unit]
  -- all steps stand in a row now but for the opening code, which may be missing
  cases document.init.bind Text.nonBlank with
  | none =>
    simp only [Option.toList_none, List.forM_nil, pure_bind]
    rfl
  | some code =>
    simp only [during_execute, Option.toList_some, List.forM_cons, List.forM_nil, bind_pure_unit]
    rfl

/-! ## Sequences of calls -/

theorem forM_cons_eq (item : LoadPhase × EngineCall) (rest : List (LoadPhase × EngineCall))
    (before : σ) :
    (item :: rest).forM (making E) before =
      match E.perform item.2 before with
      | (.ok (), middle) => rest.forM (making E) middle
      | (.error cause, after) => (.error (.load item.1 cause), after) := by
  change (making E item >>= fun _ => rest.forM (making E)) before = _
  simp only [bind, ExceptT.bind, ExceptT.mk, StateT.bind, making, during]
  rcases E.perform item.2 before with ⟨⟨⟩ | ⟨⟩, middle⟩ <;> rfl

/-- Loading succeeds in a sequence of calls if and only if every call succeeds. -/
theorem forM_ok_iff {items : List (LoadPhase × EngineCall)} {before after : σ} :
    items.forM (making E) before = (.ok (), after) ↔
      E.Passes (items.map Prod.snd) before after := by
  induction items generalizing before with
  | nil =>
    constructor
    · rintro ⟨⟩
      exact .nil _
    · rintro ⟨⟩
      rfl
  | cons item rest ih =>
    rw [forM_cons_eq]
    constructor
    · intro h
      split at h
      · next middle hcall => exact .cons hcall (ih.mp h)
      · cases h
    · rintro (_ | ⟨hcall, hrest⟩)
      rw [hcall]
      exact ih.mpr hrest

/-- The calls before one that fails have succeeded, and loading ends with that one. -/
structure CutAt (E : Engine σ) (items : List (LoadPhase × EngineCall)) (before : σ)
    (made : List (LoadPhase × EngineCall)) (phase : LoadPhase) (call : EngineCall) (cause : Fault)
    (after : σ) : Prop where
  split : ∃ rest, items = made ++ (phase, call) :: rest
  fails : ∃ middle, E.Passes (made.map Prod.snd) before middle ∧
    E.perform call middle = (.error cause, after)

/-- Loading fails in a sequence of calls if and only if the sequence is cut, with the fault of the
step that the failing call belongs to. -/
theorem forM_error_iff {items : List (LoadPhase × EngineCall)} {before after : σ}
    {fault : Fault} :
    items.forM (making E) before = (.error fault, after) ↔
      ∃ made phase call cause, CutAt E items before made phase call cause after ∧
        fault = .load phase cause := by
  constructor
  · intro h
    induction items generalizing before with
    | nil => cases h
    | cons item rest ih =>
      rw [forM_cons_eq] at h
      split at h
      · next middle hcall =>
        obtain ⟨made, phase, call, cause, ⟨⟨others, rfl⟩, last, hmade, hfails⟩, hfault⟩ := ih h
        exact ⟨item :: made, phase, call, cause,
          ⟨⟨others, rfl⟩, last, .cons hcall hmade, hfails⟩, hfault⟩
      · next cause last hcall =>
        cases h
        exact ⟨[], item.1, item.2, cause, ⟨⟨rest, rfl⟩, before, .nil before, hcall⟩, rfl⟩
  · rintro ⟨made, phase, call, cause, ⟨⟨rest, rfl⟩, middle, hmade, hfails⟩, rfl⟩
    induction made generalizing before with
    | nil =>
      cases hmade
      rw [List.nil_append, forM_cons_eq, hfails]
    | cons item made ih =>
      obtain _ | ⟨hcall, hrest⟩ := hmade
      rw [List.cons_append, forM_cons_eq, hcall]
      exact ih hrest

/-- A recording engine cuts a sequence where the engine does, and has noted the calls up to
there. -/
theorem CutAt.recording {items made : List (LoadPhase × EngineCall)} {before after : σ}
    {phase : LoadPhase} {call : EngineCall} {cause : Fault}
    (h : CutAt E items before made phase call cause after) :
    CutAt E.recording items ⟨before, []⟩ made phase call cause
      ⟨after, made.map Prod.snd ++ [call]⟩ := by
  obtain ⟨middle, hmade, hfails⟩ := h.fails
  refine ⟨h.split, ⟨middle, made.map Prod.snd⟩, Engine.Passes.recording_iff.mpr ⟨hmade, rfl⟩, ?_⟩
  rw [Engine.perform_recording, hfails]

/-- The calls of a document that is registered succeed. -/
theorem passes_registered {document : Document} {before after : σ}
    (h : register E document before = (.ok (), after)) : E.Passes document.calls before after :=
  forM_ok_iff.mp (register_eq E document ▸ h)

/-! ## Loading -/

/-- What loading ends with, and the calls that it has made for that. -/
inductive Loads (E : Engine σ) (document : Document) (engine : σ) :
    Except Fault (Story σ) × σ → List EngineCall → Prop where
  /-- An engine that is not ready is asked for nothing. -/
  | idle (hready : E.isReady engine = false) :
    Loads E document engine (.error .engineNotReady, engine) []
  /-- All calls succeed. -/
  | whole {after : σ} (hready : E.isReady engine = true)
    (hcalls : E.Passes document.calls engine after) :
    Loads E document engine (.ok (ofDocument document after), after) document.calls
  /-- A call fails and is the last one; those before it have succeeded. -/
  | cut {made : List (LoadPhase × EngineCall)} {phase : LoadPhase} {call : EngineCall}
    {cause : Fault} {after : σ} (hready : E.isReady engine = true)
    (hcut : CutAt E document.registration engine made phase call cause after) :
    Loads E document engine (.error (.load phase cause), after) (made.map Prod.snd ++ [call])

section Ends

variable {document : Document} {engine after : σ}

theorem load_idle (h : E.isReady engine = false) :
    load E document engine = (.error .engineNotReady, engine) := by
  rw [load, h]
  rfl

theorem load_whole (h : E.isReady engine = true) (hcalls : E.Passes document.calls engine after) :
    load E document engine = (.ok (ofDocument document after), after) := by
  rw [load, if_pos h, register_eq, forM_ok_iff.mpr hcalls]

theorem load_cut (h : E.isReady engine = true) {made : List (LoadPhase × EngineCall)}
    {phase : LoadPhase} {call : EngineCall} {cause : Fault}
    (hcut : CutAt E document.registration engine made phase call cause after) :
    load E document engine = (.error (.load phase cause), after) := by
  rw [load, if_pos h, register_eq, forM_error_iff.mpr ⟨made, phase, call, cause, hcut, rfl⟩]

end Ends

/-- Loading ends in one of the three ways, and the recording engine shows the calls. -/
theorem loads (E : Engine σ) (document : Document) (engine : σ) :
    Loads E document engine (load E document engine)
      (load E.recording document ⟨engine, []⟩).2.calls := by
  cases hready : E.isReady engine with
  | false =>
    have hnoted : E.recording.isReady ⟨engine, []⟩ = false := hready
    rw [load_idle hready, load_idle hnoted]
    exact .idle hready
  | true =>
    have hnoted : E.recording.isReady ⟨engine, []⟩ = true := hready
    rcases hend : document.registration.forM (making E) engine with ⟨fault | ⟨⟩, after⟩
    · obtain ⟨made, phase, call, cause, hcut, rfl⟩ := forM_error_iff.mp hend
      rw [load_cut hready hcut, load_cut hnoted hcut.recording]
      exact .cut hready hcut
    · have hcalls := forM_ok_iff.mp hend
      have hrecorded : E.recording.Passes document.calls ⟨engine, []⟩ ⟨after, document.calls⟩ :=
        Engine.Passes.recording_iff.mpr ⟨hcalls, rfl⟩
      rw [load_whole hready hcalls, load_whole hnoted hrecorded]
      exact .whole hready hcalls

namespace Loads

variable {document : Document} {engine : σ} {ended : Except Fault (Story σ) × σ}
  {calls : List EngineCall}

/-- The calls that are made are the first ones of the registration. -/
theorem isPrefix (h : Loads E document engine ended calls) : calls <+: document.calls := by
  cases h with
  | idle => exact List.nil_prefix
  | whole => exact List.prefix_rfl
  | cut _ hcut =>
    obtain ⟨rest, hsplit⟩ := hcut.split
    refine ⟨rest.map Prod.snd, ?_⟩
    rw [Document.calls, hsplit, List.map_append, List.map_cons, List.append_assoc,
      List.singleton_append]

/-- Loading that has succeeded has made all calls. -/
theorem passes (h : Loads E document engine ended calls) (hok : ended.1.isOk = true) :
    E.isReady engine = true ∧ ∃ after, E.Passes document.calls engine after := by
  cases h with
  | idle => cases hok
  | whole hready hcalls => exact ⟨hready, _, hcalls⟩
  | cut => cases hok

end Loads

/-- Loading makes one fixed sequence of calls and is cut at the first that fails. An engine that is
not ready is asked for nothing. A failure has the code of the step that the call belongs to and the
place that the engine has told, and loading succeeds only by the whole sequence. -/
theorem load_sequence (E : Engine σ) (document : Document) (engine : σ) :
    Loads E document engine (load E document engine)
      (load E.recording document ⟨engine, []⟩).2.calls ∧
    (load E.recording document ⟨engine, []⟩).2.calls <+: document.calls ∧
    ((load E document engine).1.isOk = true ↔
      E.isReady engine = true ∧ ∃ after, E.Passes document.calls engine after) ∧
    document.registration.map (fun (phase, call) => (phase.code, call)) =
      document.vars.map (fun (name, value) => ("PARSE_VARS", .write name value)) ++
      [("PARSE_BUILTINS", .addHelpers), ("PARSE_BUILTINS", .write "temp" (.record [])),
        ("PARSE_BUILTINS", .write "goto_section" .nil),
        ("PARSE_BUILTINS", .write "s" (.record []))] ++
      (document.init.bind Text.nonBlank).toList.map (fun code => ("PARSE_INIT", .execute code)) ++
      document.events.map (fun (id, event) =>
        ("PARSE_EVENT", .define ("event_" ++ id) event.params event.run)) ++
      document.hooks.map (fun (id, hook) => ("PARSE_HOOK", .define ("hook_" ++ id) [] hook.run)) ++
      document.sections.map (fun (id, spec) =>
        ("PARSE_SECTION", .write (sectionNamespace id) (.record (Fields.sorted spec.vars)))) ∧
    Fault.engineNotReady.code = "PARSE_ENGINE_UNAVAILABLE" ∧
    ∀ phase cause, (Fault.load phase cause).code = phase.code ∧
      (Fault.load phase cause).place? = cause.place? := by
  have hloads := loads E document engine
  refine ⟨hloads, hloads.isPrefix, ⟨hloads.passes, ?_⟩, ?_, rfl, fun _ _ => ⟨rfl, rfl⟩⟩
  · rintro ⟨hready, after, hcalls⟩
    rw [load_whole hready hcalls]
    rfl
  · simp only [Document.registration, List.map_append, List.map_map]
    rfl

end Story

end Gamebook
