import Gamebook.Proofs.Script.Level
import Gamebook.Proofs.Script.Storing

/-!
# Constants

A script may declare a constant, and the host cannot write a variable of that name from then on. All
other writes of the host succeed. Statements may declare what they like; expressions, procedures and
functions make nothing constant and free nothing, and neither does the host.

* `Interpreter.isConstant` : a name that the host cannot write.
* `Stage.reads_put_free` : what the host writes reads back where it is not a constant.
* `Stage.Looks.isConstant` : guards and placeholders leave the constants alone.
-/

namespace Gamebook

namespace Script

namespace Scope

/-- The shape of a scope tells the constants. -/
theorem any_constant (name : String) (scope : Scope) :
    (find? name scope).any Binding.constant =
      ((shape scope).find? fun entry => entry.1 = name).any Prod.snd := by
  induction scope with
  | nil => rfl
  | cons b older ih =>
    rw [find?, shape_cons, List.find?_cons]
    by_cases hb : b.name = name
    · simp [hb]
    · simp [hb, ih]

/-- What the host puts is no new constant. -/
theorem any_constant_put (name other : String) (value : Item) (scope : Scope) :
    (find? other (put name value scope)).any Binding.constant =
      (find? other scope).any Binding.constant := by
  unfold put
  split
  · rw [any_constant, any_constant, shape_write]
  · next hnone =>
    rw [declare, find?]
    split
    · next hname =>
      obtain rfl := hname
      rw [Option.not_isSome_iff_eq_none] at hnone
      rw [hnone]
      rfl
    · rfl

theorem name_of_find? {name : String} {scope : Scope} {b : Binding}
    (h : find? name scope = some b) : b.name = name := by
  induction scope with
  | nil => cases h
  | cons first older ih =>
    rw [find?] at h
    split at h
    · next hname =>
      cases h
      exact hname
    · exact ih h

/-- What is put where there is no constant is a variable. -/
theorem find?_put_free {name : String} {scope : Scope}
    (h : (find? name scope).any Binding.constant = false) (value : Item) (other : String) :
    find? other (put name value scope) =
      if name = other then some ⟨name, false, value⟩ else find? other scope := by
  unfold put
  cases hfound : find? name scope with
  | none =>
    rw [if_neg (by simp), declare, find?]
  | some b =>
    obtain ⟨bound, constant, old⟩ := b
    obtain rfl : bound = name := name_of_find? hfound
    rw [hfound] at h
    obtain rfl : constant = false := h
    rw [if_pos (by simp), find?_write]
    split
    · next heq =>
      rw [← heq, hfound]
      rfl
    · rfl

theorem find?_put_of_ne {name other : String} (h : name ≠ other) (value : Item) (scope : Scope) :
    find? other (put name value scope) = find? other scope := by
  unfold put
  split
  · rw [find?_write, if_neg h]
  · rw [declare, find?, if_neg h]

end Scope

namespace Interpreter

/-- The name belongs to a constant: the host cannot write it. -/
def isConstant (name : String) (it : Interpreter) : Bool :=
  (Scope.find? name it.scope).any Binding.constant

theorem write_free {name : String} {it : Interpreter} (h : it.isConstant name = false)
    (value : Value) :
    it.write name value =
      (.ok (), { it with scope := Scope.put name (.ofValue value) it.scope }) := by
  rw [write, if_neg]
  rw [isConstant] at h
  simp [h]

@[simp] theorem isConstant_write (name other : String) (value : Value) (it : Interpreter) :
    (it.write name value).2.isConstant other = it.isConstant other := by
  unfold write
  split
  · rfl
  · exact Scope.any_constant_put name other _ it.scope

/-- What is enclosed leaves the shape of the scope as it was. -/
theorem shape_enclosed (run : Run Item) (it : Interpreter) :
    (enclosed run it).2.scope.shape = it.scope.shape :=
  (Run.Level.locally run).shape ⟨it.world, ⟨[], _, rfl, rfl⟩⟩

/-- Evaluating an expression leaves the shape of the scope as it was. -/
theorem shape_evaluate (code : String) (it : Interpreter) :
    (it.evaluate code).2.scope.shape = it.scope.shape := by
  unfold evaluate
  split
  · rfl
  · exact shape_enclosed _ it

/-- So does calling a procedure or a function. -/
theorem shape_call (name : String) (args : List Value) (it : Interpreter) :
    (it.call name args).2.scope.shape = it.scope.shape := by
  unfold call
  dsimp only
  split
  · exact shape_enclosed _ it
  · split
    · rfl
    · split
      · exact shape_enclosed _ it
      · rfl

/-- Evaluating an expression makes nothing constant and frees nothing. -/
theorem isConstant_evaluate (name code : String) (it : Interpreter) :
    (it.evaluate code).2.isConstant name = it.isConstant name := by
  rw [isConstant, isConstant, Scope.any_constant, Scope.any_constant, shape_evaluate]

/-- Calling a procedure or a function makes nothing constant and frees nothing. -/
theorem isConstant_call (name function : String) (args : List Value) (it : Interpreter) :
    (it.call function args).2.isConstant name = it.isConstant name := by
  rw [isConstant, isConstant, Scope.any_constant, Scope.any_constant, shape_call]

end Interpreter

end Script

namespace Stage

open Script

variable {st after : Stage Interpreter} {name : String}

/-- The host cannot write the variable. -/
def isConstant (name : String) (st : Stage Interpreter) : Bool := st.engine.isConstant name

@[simp] theorem isConstant_put (name other : String) (value : Value) (st : Stage Interpreter) :
    (put Script.engine name value st).isConstant other = st.isConstant other :=
  Interpreter.isConstant_write name other value st.engine

/-- What is no constant reads as what the host has put there. -/
theorem reads_put_free (h : st.isConstant name = false) (value : Value) :
    reads Script.engine name (put Script.engine name value st) = .ok value := by
  have hok : (write Script.engine name value st).1 = .ok () :=
    congrArg Prod.fst (Interpreter.write_free h value)
  exact reads_write engine_stores.recalls (Prod.ext hok rfl)

/-- Guards and placeholders leave the constants alone. -/
theorem Looks.isConstant (h : Looks Script.engine st after) (name : String) :
    after.isConstant name = st.isConstant name := by
  have hkept : ∀ {first last : Interpreter}, Script.engine.Evaluated first last →
      last.isConstant name = first.isConstant name := by
    intro first last heval
    induction heval with
    | none => rfl
    | next expression _ ih => exact (Interpreter.isConstant_evaluate name expression _).trans ih
  exact hkept h.evaluated

/-! ## Binding sections -/

@[simp] theorem isConstant_rebind (name : String) (s : Section) (st : Stage Interpreter) :
    (s.rebind Script.engine st).isConstant name = st.isConstant name := by
  rw [Section.rebind_eq engine_stores.recalls]
  change (put Script.engine aliasName _ _).isConstant name = _
  rw [isConstant_put, isConstant_put, resetScratch, isConstant_put]

/-- A section that is bound has its private variables and its visit count in its namespace, unless
that is a constant. -/
theorem reads_namespace_rebind {s : Section} (h : st.isConstant (sectionNamespace s.id) = false) :
    reads Script.engine (sectionNamespace s.id) (s.rebind Script.engine st) =
      .ok (.record (s.noted Script.engine st)) := by
  rw [Section.rebind_eq engine_stores.recalls]
  change reads Script.engine _ (put Script.engine aliasName _ _) = _
  rw [reads_put_of_ne engine_stores.recalls (sectionNamespace_ne_alias s.id)]
  exact reads_put_free ((isConstant_put _ _ _ st).trans h) _

/-- It has them under the alias, unless that is a constant. -/
theorem reads_alias_rebind (s : Section) (h : st.isConstant aliasName = false) :
    reads Script.engine aliasName (s.rebind Script.engine st) =
      .ok (.record (s.noted Script.engine st)) := by
  rw [Section.rebind_eq engine_stores.recalls]
  refine reads_put_free ?_ _
  rw [isConstant_put, resetScratch, isConstant_put, h]

/-- The scratch record is empty, unless it is a constant. -/
theorem reads_scratch_rebind (s : Section) (h : st.isConstant scratchName = false) :
    reads Script.engine scratchName (s.rebind Script.engine st) = .ok (.record []) := by
  rw [Section.rebind_eq engine_stores.recalls]
  change reads Script.engine _ (put Script.engine aliasName _ _) = _
  rw [reads_put_of_ne engine_stores.recalls (by decide),
    reads_put_of_ne engine_stores.recalls (Ne.symm (sectionNamespace_ne_scratch s.id))]
  exact reads_put_free h _

end Stage

end Gamebook
