import Gamebook.Proofs.Calls
import Gamebook.Story

/-!
# What the stage keeps

Which section is bound, and what reaches the engine. Only `Stage.bindSection` binds a section.
Guards, texts and offers only look: they evaluate expressions and do nothing else, so no variable
is written and no section bound while a player is shown the options.

* `Stage.bound_runEffect`, `Section.bound_enter` : the bound section after effects and visits.
* `Stage.looks_render`, `Section.looks_available`, `Story.looks_offersOf` : what only looks.
-/

namespace Gamebook

variable {σ : Type} {E : Engine σ}

namespace Stage

/-! ## The bound section -/

@[simp] theorem bound_write (name : String) (value : Value) (st : Stage σ) :
    (write E name value st).2.bound = st.bound := rfl

@[simp] theorem bound_put (name : String) (value : Value) (st : Stage σ) :
    (put E name value st).bound = st.bound := rfl

@[simp] theorem bound_resetScratch (st : Stage σ) : (resetScratch E st).bound = st.bound := rfl

@[simp] theorem bound_bindSection (sectionId : String) (visits : UInt32) (st : Stage σ) :
    (bindSection E sectionId visits st).bound = some sectionId := rfl

@[simp] theorem bound_commit (st : Stage σ) : (commit E st).bound = st.bound := by
  unfold commit
  split
  · rfl
  · split <;> simp

@[simp] theorem bound_run (code : String) (st : Stage σ) : (run E code st).2.bound = st.bound :=
  bound_commit _

@[simp] theorem bound_call (name : String) (args : List Value) (st : Stage σ) :
    (call E name args st).2.bound = st.bound := bound_commit _

@[simp] theorem bound_callHook (name : String) (st : Stage σ) :
    (callHook E name st).2.bound = st.bound := by
  unfold callHook
  split <;> simp

@[simp] theorem bound_takeRedirect (st : Stage σ) : (takeRedirect E st).2.bound = st.bound := by
  simp only [takeRedirect]
  split <;> simp

/-- The effect of an option binds no section. -/
@[simp] theorem bound_runEffect (code : Option String) (st : Stage σ) :
    (runEffect E code st).2.bound = st.bound := by
  cases code <;> simp [runEffect]

/-! ## Looking -/

/-- The second stage comes from the first by evaluating expressions. -/
structure Looks (E : Engine σ) (before after : Stage σ) : Prop where
  bound : after.bound = before.bound
  evaluated : E.Evaluated before.engine after.engine

namespace Looks

theorem refl (st : Stage σ) : Looks E st st := ⟨rfl, .none _⟩

theorem trans {first middle last : Stage σ} (h₁ : Looks E first middle)
    (h₂ : Looks E middle last) : Looks E first last :=
  ⟨h₂.bound.trans h₁.bound, h₁.evaluated.trans h₂.evaluated⟩

end Looks

theorem looks_check (expression : String) (st : Stage σ) :
    Looks E st (check E expression st).2 := ⟨rfl, .one _ _⟩

theorem looks_evalText (expression : String) (st : Stage σ) :
    Looks E st (evalText E expression st).2 := by
  unfold evalText
  split
  · exact .refl st
  · exact ⟨rfl, .one _ _⟩

/-- A template evaluates its placeholders. -/
theorem looks_render (template : String) (st : Stage σ) :
    Looks E st (render E template st).2 := by
  have hpieces : ∀ (pieces : List Template.Piece) (st : Stage σ),
      Looks E st (Template.expandPieces (evalText E) pieces st).2 := by
    intro pieces
    induction pieces with
    | nil => exact fun st => .refl st
    | cons piece rest ih =>
      intro st
      cases piece with
      | literal chars => exact ih st
      | expression chars => exact (looks_evalText _ st).trans (ih _)
  exact hpieces _ st

end Stage

namespace Choice

theorem looks_isAvailable (visits : UInt32) (choice : Choice) (st : Stage σ) :
    Stage.Looks E st (choice.isAvailable E visits st).2 := by
  unfold isAvailable
  split
  · split
    · exact .refl st
    · exact Stage.looks_check _ st
  · exact .refl st

theorem looks_offer (choice : Choice) (st : Stage σ) :
    Stage.Looks E st (choice.offer E st).2 := Stage.looks_render _ st

theorem looks_renderNotice (choice : Choice) (st : Stage σ) :
    Stage.Looks E st (choice.renderNotice E st).2 := by
  unfold renderNotice
  split
  · exact .refl st
  · exact Stage.looks_render _ st

/-- Executing an option binds no section. -/
@[simp] theorem bound_execute (choice : Choice) (st : Stage σ) :
    (choice.execute E st).2.bound = st.bound := by
  simp only [execute]
  rw [(choice.looks_renderNotice _).bound, Stage.bound_runEffect]

end Choice

namespace Section

theorem looks_availableOf (visits : UInt32) (choices : Fields Choice) (st : Stage σ) :
    Stage.Looks E st (availableOf E visits choices st).2 := by
  induction choices generalizing st with
  | nil => exact .refl st
  | cons entry rest ih => exact (entry.2.looks_isAvailable visits st).trans (ih _)

/-- Finding out which options can be chosen evaluates guards. -/
theorem looks_available (s : Section) (st : Stage σ) :
    Stage.Looks E st (s.available E st).2 := looks_availableOf s.visits s.choices st

@[simp] theorem bound_rebind (s : Section) (st : Stage σ) :
    (s.rebind E st).bound = some s.id := rfl

/-- A section that is entered is bound, whatever its code does. -/
@[simp] theorem bound_enter (s : Section) (st : Stage σ) :
    (s.enter E st).bound = some s.id := by
  unfold enter
  split <;> simp

end Section

namespace Story

theorem looks_offersOf (choices : List Choice) (st : Stage σ) :
    Stage.Looks E st (offersOf E choices st).2 := by
  induction choices generalizing st with
  | nil => exact .refl st
  | cons choice rest ih => exact (choice.looks_offer st).trans (ih _)

end Story

end Gamebook
