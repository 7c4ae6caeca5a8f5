import Gamebook.Proofs.Stage

/-!
# What the stage asks of its engine

What a stage does to its engine, it does by calls. This module says which calls several placeholders
take, one after the other, and what text each of them leaves: a placeholder is evaluated where those
before it have left the engine, and a blank one is not evaluated at all.

* `Engine.performAll_recording` : a recording engine makes calls and notes them.
* `Stage.afterCalls` : the stage after calls of its engine.
* `Stage.mapM_afterCalls` : an operation for each item of a list, one after the other.
* `Stage.mapM_evalText` : the calls of several placeholders, and their texts.
-/

namespace Gamebook

variable {σ : Type} {E : Engine σ}

theorem Engine.performAll_append (E : Engine σ) (calls more : List EngineCall) (state : σ) :
    E.performAll (calls ++ more) state = E.performAll more (E.performAll calls state) :=
  List.foldl_append

/-- A recording engine makes calls as the engine does, and notes them. -/
theorem Engine.performAll_recording (E : Engine σ) (calls : List EngineCall) (r : Recorded σ) :
    E.recording.performAll calls r = ⟨E.performAll calls r.state, r.calls ++ calls⟩ := by
  induction calls generalizing r with
  | nil => rw [List.append_nil]; rfl
  | cons call rest ih =>
    change E.recording.performAll rest (E.recording.perform call r).2 = _
    rw [perform_recording, ih, List.append_assoc]
    rfl

namespace Stage

/-- The stage after calls of its engine. -/
def afterCalls (E : Engine σ) (calls : List EngineCall) (st : Stage σ) : Stage σ :=
  { st with engine := E.performAll calls st.engine }

@[simp] theorem afterCalls_nil (st : Stage σ) : st.afterCalls E [] = st := rfl

theorem afterCalls_append (calls more : List EngineCall) (st : Stage σ) :
    st.afterCalls E (calls ++ more) = (st.afterCalls E calls).afterCalls E more := by
  rw [afterCalls, Engine.performAll_append]
  rfl

/-- The stage of a recording engine after calls. -/
theorem afterCalls_recording (E : Engine σ) (calls : List EngineCall) (st : Stage (Recorded σ)) :
    st.afterCalls E.recording calls =
      { st with
        engine := ⟨E.performAll calls st.engine.state, st.engine.calls ++ calls⟩ } := by
  rw [afterCalls, Engine.performAll_recording]

/-! ## One after the other -/

/-- Where an operation makes calls that depend on its item alone, the operation for each item of a
list finds the stage that the calls for the items before it have left. -/
theorem mapM_afterCalls {α β : Type} {operation : α → StateM (Stage σ) β}
    (calls : α → List EngineCall)
    (hcalls : ∀ a st, (operation a st).2 = st.afterCalls E (calls a)) (items : List α)
    (st : Stage σ) :
    items.mapM operation st =
      (items.mapIdx fun index a =>
          (operation a (st.afterCalls E ((items.take index).flatMap calls))).1,
        st.afterCalls E (items.flatMap calls)) := by
  induction items generalizing st with
  | nil => rfl
  | cons a rest ih =>
    have hcons : (a :: rest).mapM operation st =
        ((operation a st).1 :: (rest.mapM operation (operation a st).2).1,
          (rest.mapM operation (operation a st).2).2) := by
      rw [List.mapM_cons]
      rfl
    rw [hcons, hcalls, ih, List.mapIdx_cons]
    simp only [List.take_zero, List.take_succ_cons, List.flatMap_cons, List.flatMap_nil,
      afterCalls_nil, afterCalls_append]

/-! ## Placeholders -/

/-- The calls that placeholders take, in order: those that are not blank are evaluated. -/
def evaluations (expressions : List String) : List EngineCall :=
  (expressions.filter fun expression => !Text.isBlank expression).map .evaluate

/-- The text that a placeholder leaves where the engine is in a state; none if it is blank or
fails. -/
def textIn (E : Engine σ) (state : σ) (expression : String) : String :=
  if Text.isBlank expression then ""
  else match (E.evaluate expression state).1 with
    | .ok value => value.toText
    | .error _ => ""

theorem evalText_eq (E : Engine σ) (expression : String) (st : Stage σ) :
    evalText E expression st =
      (textIn E st.engine expression, st.afterCalls E (evaluations [expression])) := by
  cases h : Text.isBlank expression with
  | true => simp [evalText, textIn, evaluations, h]
  | false =>
    simp only [evalText, textIn, evaluations, h, List.filter_cons, Bool.not_false, if_true]
    rfl

theorem evaluations_flatMap {α : Type} (placeholders : α → List String) (items : List α) :
    evaluations (items.flatMap placeholders) =
      items.flatMap fun a => evaluations (placeholders a) := by
  simp only [evaluations, List.filter_flatMap, List.map_flatMap]

/-- Placeholders are evaluated one after the other, each where those before it have left the
engine. -/
theorem mapM_evalText (E : Engine σ) (expressions : List String) (st : Stage σ) :
    expressions.mapM (evalText E) st =
      (expressions.mapIdx fun index expression =>
          textIn E (E.performAll (evaluations (expressions.take index)) st.engine) expression,
        st.afterCalls E (evaluations expressions)) := by
  rw [mapM_afterCalls (fun expression => evaluations [expression])
    fun expression st => congrArg Prod.snd (evalText_eq E expression st)]
  simp only [← evaluations_flatMap, List.flatMap_singleton', evalText_eq]
  rfl

end Stage

end Gamebook
