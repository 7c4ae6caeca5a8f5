import Gamebook.Proofs.Calls
import Gamebook.Proofs.Script.Alike

/-!
# The interpreter at rest

Between two calls of the host no name is bound twice, whatever scripts have declared, shadowed or
left behind by failing: statements are followed by a compaction, and nothing else adds a binding for
a name that has one. So the list of all variables and the look-up of one variable agree.

* `Interpreter.AtRest` : no name twice, and the list shows what a look-up shows.
* `Interpreter.single_perform`, `Interpreter.single_performAll` : one call, and a run of calls.
* `Interpreter.evaluate_eq_bare` : evaluation brings nothing into view that would have to go.
* `Interpreter.atRest_performAll` : the interpreter is at rest after any calls.
-/

namespace Gamebook

namespace Script

namespace Scope

/-- No name is bound twice. -/
def Single (scope : Scope) : Prop := (scope.map Binding.name).Nodup

theorem map_fst_shape (scope : Scope) : (shape scope).map Prod.fst = scope.map Binding.name := by
  rw [shape, List.map_map]
  rfl

/-- The shape tells whether a name is bound twice. -/
theorem Single.of_shape {scope before : Scope} (hs : scope.shape = before.shape)
    (h : before.Single) : scope.Single := by
  rwa [Single, ← map_fst_shape, hs, map_fst_shape]

theorem single_compactFrom (seen : List String) (scope : Scope) :
    (compactFrom seen scope).Single ∧ ∀ b ∈ compactFrom seen scope, b.name ∉ seen := by
  induction scope generalizing seen with
  | nil => exact ⟨List.nodup_nil, fun b hb => by cases hb⟩
  | cons b older ih =>
    rw [compactFrom]
    split
    · exact ih seen
    · next hfresh =>
      obtain ⟨hsingle, hunseen⟩ := ih (b.name :: seen)
      refine ⟨List.nodup_cons.mpr ⟨fun hmem => ?_, hsingle⟩, ?_⟩
      · obtain ⟨other, hother, hname⟩ := List.mem_map.mp hmem
        exact hunseen other hother (hname ▸ List.mem_cons_self)
      · intro other hother
        rcases List.mem_cons.mp hother with rfl | hother
        · simpa using hfresh
        · exact fun hmem => hunseen other hother (List.mem_cons_of_mem _ hmem)

theorem single_compact (scope : Scope) : scope.compact.Single := (single_compactFrom [] scope).1

theorem Single.put {scope : Scope} (h : scope.Single) (name : String) (value : Item) :
    (put name value scope).Single := by
  unfold Scope.put
  split
  · exact h.of_shape (shape_write name value scope)
  · next hnone =>
    exact List.nodup_cons.mpr ⟨fun hmem => hnone ((find?_isSome name scope).mpr hmem), h⟩

/-- The variables that have values, newest first. -/
def values (scope : Scope) : Variables :=
  scope.filterMap fun b => match b.value.toValue with
    | .ok value => some (b.name, value)
    | .error _ => none

theorem values_cons (b : Binding) (older : Scope) :
    values (b :: older) = match b.value.toValue with
      | .ok value => (b.name, value) :: values older
      | .error _ => values older := by
  rw [values, List.filterMap_cons]
  cases b.value.toValue <;> rfl

theorem names_values (scope : Scope) : (values scope).names.Sublist (scope.map Binding.name) := by
  induction scope with
  | nil => exact .slnil
  | cons b older ih =>
    rw [values_cons, List.map_cons]
    cases b.value.toValue with
    | ok value => exact ih.cons_cons b.name
    | error type => exact ih.cons b.name

/-- Where no name is bound twice, the list of the values shows what a look-up finds. -/
theorem Single.find?_values {scope : Scope} (h : scope.Single) (name : String) :
    (values scope).find? name = (find? name scope).bind fun b => b.value.toValue.toOption := by
  induction scope with
  | nil => rfl
  | cons b older ih =>
    obtain ⟨hfresh, hrest⟩ := List.nodup_cons.mp h
    rw [values_cons, find?]
    by_cases hname : b.name = name
    · -- the binding is the only one of its name, so one without a value is not made up for
      have hnone : find? name older = none := by
        rw [← Option.not_isSome_iff_eq_none, find?_isSome, ← hname]
        exact hfresh
      rw [if_pos hname]
      cases hvalue : b.value.toValue with
      | ok value => simp [Fields.find?_cons, hname, hvalue, Except.toOption]
      | error type => simp [ih hrest, hnone, hvalue, Except.toOption]
    · rw [if_neg hname, ← ih hrest]
      cases b.value.toValue with
      | ok value => rw [Fields.find?_cons, if_neg hname]
      | error type => rfl

end Scope

namespace Interpreter

/-! ## Evaluation -/

/-- Runs something and leaves in view what it brings there. -/
def bare (run : Run Item) (it : Interpreter) : Except Fault Value × Interpreter :=
  let (result, after) := run.start it.world
  (resultOf result, it.withWorld after.1)

/-- A run that brings nothing into view needs no enclosing. -/
theorem enclosed_level {run : Run Item} (h : run.Level) (it : Interpreter) :
    enclosed run it = bare run it := by
  have hlevel : (run.start it.world).2.1.scope.shape = it.scope.shape := h.shape _
  have hlength := congrArg List.length hlevel
  rw [Scope.length_shape, Scope.length_shape] at hlength
  have hkept : ((run.start it.world).2.1.scope.rewind it.scope.length) =
      (run.start it.world).2.1.scope := by
    rw [Scope.rewind, hlength, Nat.sub_self, List.drop_zero]
  refine Prod.ext rfl ?_
  change ({ it with scope := _, dice := _ } : Interpreter) = { it with scope := _, dice := _ }
  exact congrArg (fun scope => { it with scope, dice := (run.start it.world).2.1.dice }) hkept

/-- Evaluates an expression and leaves in view what it brings there. -/
def evaluateBare (code : String) (it : Interpreter) : Except Fault Value × Interpreter :=
  match Expr.ofText code with
  | .error complaint => (.error (misread complaint), it)
  | .ok e => bare (Evaluation.script (it.setupWith []) [.value e]) it

/-- An expression brings nothing into view: enclosing it takes nothing away. -/
theorem evaluate_eq_bare (code : String) (it : Interpreter) :
    it.evaluate code = it.evaluateBare code := by
  unfold evaluate evaluateBare
  cases Expr.ofText code with
  | error complaint => rfl
  | ok e => exact enclosed_level (Evaluation.level_script _ e) it

/-! ## Calls -/

theorem single_execute {it : Interpreter} (h : it.scope.Single) (code : String) :
    (it.execute code).2.scope.Single := by
  unfold execute
  split
  · exact h
  · exact Scope.single_compact _

theorem single_write {it : Interpreter} (h : it.scope.Single) (name : String) (value : Value) :
    (it.write name value).2.scope.Single := by
  unfold write
  split
  · exact h
  · exact h.put name _

/-- No call binds a name twice, whether it succeeds or fails. -/
theorem single_perform (call : EngineCall) {it : Interpreter} (h : it.scope.Single) :
    (engine.perform call it).2.scope.Single := by
  -- statements alone may bind a name again, and a compaction follows them
  cases call with
  | execute code => exact single_execute h code
  | evaluate expression => exact h.of_shape (shape_evaluate expression it)
  | write name value => exact single_write h name value
  | define name params body =>
    change (it.define name params body).2.scope.Single
    unfold define
    split <;> exact h
  | call name args => exact h.of_shape (shape_call name args it)
  | addHelpers => exact h
  | setDice dice => exact h

theorem single_performAll (calls : List EngineCall) {it : Interpreter} (h : it.scope.Single) :
    (engine.performAll calls it).scope.Single := by
  induction calls generalizing it with
  | nil => exact h
  | cons call rest ih => exact ih (single_perform call h)

/-! ## At rest -/

/-- No name is bound twice, and the list of the variables shows the names that are bound to a value,
each with the value that it reads as. -/
structure AtRest (it : Interpreter) : Prop where
  single : (it.scope.map Binding.name).Nodup
  ascending : it.readAll.Ascending
  listed : ∀ name value, it.readAll.find? name = some value ↔
    name ∈ it.scope.map Binding.name ∧ it.read name = .ok value

theorem atRest_of_single {it : Interpreter} (h : it.scope.Single) : it.AtRest where
  single := h
  ascending := Fields.ascending_sorted _
  listed name value := by
    have hlist : it.readAll.find? name =
        (Scope.find? name it.scope).bind fun b => b.value.toValue.toOption :=
      (Fields.find?_sorted name ((Scope.names_values it.scope).nodup h)).trans (h.find?_values name)
    rw [hlist, ← Scope.find?_isSome, read]
    cases Scope.find? name it.scope with
    | none => simp
    | some b =>
      simp only [Option.bind_some, Option.isSome_some, true_and, valueOf]
      cases b.value.toValue <;> simp [Except.toOption]

/-- After any calls, succeeding or failing, the interpreter is at rest. What is evaluated or called
next leaves the names in view as they are, and an expression does so by itself. -/
theorem atRest_performAll (seed : UInt32) (calls : List EngineCall) :
    (engine.performAll calls (.seeded seed)).AtRest ∧
    (∀ expression,
      (engine.performAll calls (.seeded seed)).evaluate expression =
        (engine.performAll calls (.seeded seed)).evaluateBare expression ∧
      ((engine.performAll calls (.seeded seed)).evaluate expression).2.scope.shape =
        (engine.performAll calls (.seeded seed)).scope.shape) ∧
    ∀ name args, ((engine.performAll calls (.seeded seed)).call name args).2.scope.shape =
      (engine.performAll calls (.seeded seed)).scope.shape := by
  have hsingle : (engine.performAll calls (.seeded seed)).scope.Single :=
    single_performAll calls List.nodup_nil
  exact ⟨atRest_of_single hsingle,
    fun expression => ⟨evaluate_eq_bare expression _, shape_evaluate expression _⟩,
    fun name args => shape_call name args _⟩

end Interpreter

end Script

end Gamebook
