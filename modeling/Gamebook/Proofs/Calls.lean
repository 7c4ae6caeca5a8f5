import Gamebook.Engine

/-!
# What an engine is asked to do

A story hands scripts to its engine and writes variables there. `Engine.recording` is any engine
together with the calls that it has received, in their order; what a story does to the recording
engine shows which calls it makes, whatever the engine answers.

`Engine.Evaluated` says that one state comes from another by evaluating expressions alone: no
statements are executed, nothing is called, and no variable is written
(`Engine.Evaluated.calls`).

`Engine.perform` makes a call, and `Engine.Passes` says that calls succeed one after the other. The
recording engine notes each call that it is asked for (`Engine.perform_recording`).
-/

namespace Gamebook

variable {σ : Type}

/-- A call that may change an engine. Reads are not among them: they leave no state behind. -/
inductive EngineCall where
  | execute (code : String)
  | evaluate (expression : String)
  | write (name : String) (value : Value)
  | define (name : String) (params : List String) (body : String)
  | call (name : String) (args : List Value)
  | addHelpers
  | setDice (dice : UInt32)

/-- The state of an engine, and the calls that the engine has received. -/
structure Recorded (σ : Type) where
  state : σ
  calls : List EngineCall := []

namespace Engine

/-- What an operation gives, with its call noted. -/
private def noted {α : Type} (r : Recorded σ) (call : EngineCall) (result : α × σ) :
    α × Recorded σ :=
  (result.1, ⟨result.2, r.calls ++ [call]⟩)

/-- An engine that answers as `E` does and notes every call. -/
def recording (E : Engine σ) : Engine (Recorded σ) where
  isReady r := E.isReady r.state
  execute code r := noted r (.execute code) (E.execute code r.state)
  evaluate expression r := noted r (.evaluate expression) (E.evaluate expression r.state)
  read name r := E.read name r.state
  write name value r := noted r (.write name value) (E.write name value r.state)
  readAll r := E.readAll r.state
  hasFunction name r := E.hasFunction name r.state
  define name params body r :=
    noted r (.define name params body) (E.define name params body r.state)
  call name args r := noted r (.call name args) (E.call name args r.state)
  addHelpers r := noted r .addHelpers (E.addHelpers r.state)
  dice? r := E.dice? r.state
  setDice dice r := ⟨E.setDice dice r.state, r.calls ++ [.setDice dice]⟩

/-- The second state comes from the first by evaluating expressions, one after the other. -/
inductive Evaluated (E : Engine σ) : σ → σ → Prop where
  | none (state : σ) : Evaluated E state state
  | next {first last : σ} (expression : String) (h : Evaluated E first last) :
    Evaluated E first (E.evaluate expression last).2

namespace Evaluated

variable {E : Engine σ}

theorem one (expression : String) (state : σ) :
    E.Evaluated state (E.evaluate expression state).2 := .next expression (.none state)

theorem trans {first middle last : σ} (h₁ : E.Evaluated first middle)
    (h₂ : E.Evaluated middle last) : E.Evaluated first last := by
  induction h₂ with
  | none => exact h₁
  | next expression _ ih => exact .next expression ih

/-- A recording engine on which expressions were evaluated has received those evaluations and no
other call. -/
theorem calls {before after : Recorded σ} (h : E.recording.Evaluated before after) :
    ∃ expressions : List String,
      after.calls = before.calls ++ expressions.map EngineCall.evaluate := by
  induction h with
  | none => exact ⟨[], by simp⟩
  | next expression _ ih =>
    obtain ⟨expressions, hcalls⟩ := ih
    refine ⟨expressions ++ [expression], ?_⟩
    simp only [recording, noted, hcalls, List.map_append, List.map_cons, List.map_nil,
      List.append_assoc]

end Evaluated

/-! ## Making calls -/

/-- What an operation does, without what it gives. -/
private def forgetting {α : Type} (result : Except Fault α × σ) : Except Fault Unit × σ :=
  (result.1.map fun _ => (), result.2)

/-- Makes a call; tells whether it succeeds. -/
def perform (E : Engine σ) : EngineCall → σ → Except Fault Unit × σ
  | .execute code, state => forgetting (E.execute code state)
  | .evaluate expression, state => forgetting (E.evaluate expression state)
  | .write name value, state => E.write name value state
  | .define name params body, state => E.define name params body state
  | .call name args, state => forgetting (E.call name args state)
  | .addHelpers, state => E.addHelpers state
  | .setDice dice, state => (.ok (), E.setDice dice state)

theorem perform_execute (E : Engine σ) (code : String) (state : σ) :
    E.perform (.execute code) state =
      ((E.execute code state).1.map fun _ => (), (E.execute code state).2) := rfl

/-- Makes calls one after the other, whether they succeed or fail. -/
def performAll (E : Engine σ) (calls : List EngineCall) (state : σ) : σ :=
  calls.foldl (fun state call => (E.perform call state).2) state

/-- The recording engine does what the engine does and notes the call. -/
theorem perform_recording (E : Engine σ) (call : EngineCall) (r : Recorded σ) :
    E.recording.perform call r =
      ((E.perform call r.state).1, ⟨(E.perform call r.state).2, r.calls ++ [call]⟩) := by
  cases call <;> rfl

/-- The calls succeed, one after the other, and lead from the first state to the last. -/
inductive Passes (E : Engine σ) : List EngineCall → σ → σ → Prop where
  | nil (state : σ) : Passes E [] state state
  | cons {call : EngineCall} {calls : List EngineCall} {first middle last : σ}
    (hcall : E.perform call first = (.ok (), middle)) (hrest : Passes E calls middle last) :
    Passes E (call :: calls) first last

namespace Passes

variable {E : Engine σ}

theorem of_append {calls more : List EngineCall} {first last : σ}
    (h : E.Passes (calls ++ more) first last) :
    ∃ middle, E.Passes calls first middle ∧ E.Passes more middle last := by
  induction calls generalizing first with
  | nil => exact ⟨first, .nil first, h⟩
  | cons call rest ih =>
    obtain _ | ⟨hcall, hrest⟩ := h
    obtain ⟨middle, hfirst, hlast⟩ := ih hrest
    exact ⟨middle, .cons hcall hfirst, hlast⟩

/-- What every call keeps, the calls keep. -/
theorem keeps {P : σ → Prop} {calls : List EngineCall} {first last : σ}
    (h : E.Passes calls first last)
    (hcalls : ∀ call ∈ calls, ∀ state, P state → P (E.perform call state).2) (hfirst : P first) :
    P last := by
  induction h with
  | nil => exact hfirst
  | cons hcall _ ih =>
    have hmiddle := hcalls _ List.mem_cons_self _ hfirst
    rw [hcall] at hmiddle
    exact ih (fun call hmem => hcalls call (List.mem_cons_of_mem _ hmem)) hmiddle

/-- Calls that succeed on the recording engine are those that succeed on the engine, and they are
noted. -/
theorem recording_iff {calls : List EngineCall} {first last : Recorded σ} :
    E.recording.Passes calls first last ↔
      E.Passes calls first.state last.state ∧ last.calls = first.calls ++ calls := by
  induction calls generalizing first with
  | nil =>
    constructor
    · rintro ⟨⟩
      exact ⟨.nil _, (List.append_nil _).symm⟩
    · rintro ⟨hpasses, hcalls⟩
      obtain ⟨last, calls⟩ := last
      rw [List.append_nil] at hcalls
      subst hcalls
      cases hpasses
      exact .nil first
  | cons call rest ih =>
    constructor
    · rintro (_ | ⟨hcall, hrest⟩)
      rw [perform_recording, Prod.mk.injEq] at hcall
      obtain ⟨hcall, rfl⟩ := hcall
      obtain ⟨hpasses, hcalls⟩ := ih.mp hrest
      refine ⟨.cons (Prod.ext hcall rfl) hpasses, ?_⟩
      rw [hcalls, List.append_assoc, List.singleton_append]
    · rintro ⟨_ | ⟨hcall, hrest⟩, hcalls⟩
      have hnoted := E.perform_recording call first
      rw [hcall] at hnoted
      refine Passes.cons hnoted (ih.mpr ⟨hrest, ?_⟩)
      rw [hcalls, List.append_assoc, List.singleton_append]

end Passes

end Engine

end Gamebook
