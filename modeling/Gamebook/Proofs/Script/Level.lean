import Gamebook.Proofs.Script.Built

/-!
# Expressions bring nothing into view

Only statements declare variables, and those inside an expression stand in blocks, which take what
they declare out of view again. So a run that evaluates an expression leaves the scope in the shape
in which it has found it, on failure as well: it may write variables, but it adds none.

* `Run.Level` : the run leaves the shape of the scope alone.
* `Run.Built.level` : runs that declare nothing are level.
* `Evaluation.level_script` : a script that is one expression is level.
-/

namespace Gamebook

namespace Script

namespace Run

/-- The run leaves the scope in the shape in which it finds it. -/
structure Level {α : Type} (run : Run α) : Prop where
  shape : ∀ {base : Shape → Prop} (w : {w : World // w.Over base}),
    (run base w).2.1.scope.shape = w.1.scope.shape

namespace Level

variable {α β : Type}

theorem bind {run : Run α} {f : α → Run β} (h : Level run) (hf : ∀ a, Level (f a)) :
    Level (run >>= f) where
  shape {base} w := by
    have hrun := h.shape w
    simp only [Bind.bind, Run.bind]
    rcases hend : run base w with ⟨reason | a, after⟩ <;> rw [hend] at hrun
    · exact hrun
    · exact ((hf a).shape after).trans hrun

/-- What a run brings into view locally goes out of view. -/
theorem locally (run : Run α) : Level (Run.locally run) where
  shape w := by
    let after := (run (· = w.1.scope.shape) ⟨w.1, ⟨[], _, rfl, rfl⟩⟩).2
    obtain ⟨fresh, old, hshape, hold⟩ := after.2
    rw [hold] at hshape
    have hrewound := Scope.shape_rewind hshape
    rwa [Scope.length_shape] at hrewound

end Level

/-- A run that declares nothing is level; what it declares locally does not count. -/
theorem Built.level {declares : Bool} {α : Type} {run : Run α} (h : Built declares run)
    (hnone : declares = false) : Level run := by
  induction h with
  | pure a => exact ⟨fun _ => rfl⟩
  | exit reason => exact ⟨fun _ => rfl⟩
  | bind _ _ ih ihf => exact .bind (ih hnone) fun a => ihf a hnone
  | outcome _ ih => exact ⟨fun w => (ih hnone).shape w⟩
  | find? name => exact ⟨fun _ => rfl⟩
  | declare name constant value => cases hnone
  | write name value => exact ⟨fun w => Scope.shape_write name value w.1.scope⟩
  | roll draw => exact ⟨fun _ => rfl⟩
  | locally _ => exact .locally _
  | elsewhere own _ => exact ⟨fun _ => rfl⟩

end Run

namespace Evaluation

open Run (Built)

/-- A script that is one expression brings nothing into view. -/
theorem level_script (setup : Setup) (e : Expr) : (script setup [.value e]).Level := by
  have hstatements : ∀ eval : Evaluator, Built false (eval 0 (.expression e)) →
      Built false (statements setup eval 0 true .unit [.value e]) := by
    intro eval heval
    unfold statements
    exact .ite (.pure _) (.bind heval fun item => .pure item)
  have hbuilt : Built false (script setup [.value e]) := by
    unfold script
    cases taskLimit with
    | zero => exact .exit _
    | succ fuel => exact hstatements _ (built_evaluator setup fuel 0 (.expression e))
  exact hbuilt.level rfl

end Evaluation

end Script

end Gamebook
