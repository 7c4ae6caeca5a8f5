import Gamebook.Proofs.Script.Constants
import Gamebook.Proofs.Script.Covered
import Gamebook.Proofs.Session.Twins
import Gamebook.Script.Interpreter

/-!
# Interpreters that scripts cannot tell apart

Two interpreters with the same functions, procedures and dice, whose scopes show the same under some
names, give the same answers to all scripts and requests that the names cover, and stay alike. So a
story cannot tell them apart if the names cover what its scripts read, its reserved names and the
variables that it saves.

* `Names.demands` : what the names cover.
* `Interpreter.Alike` : interpreters that agree on some names.
* `Script.engine_indifferent` : requests that the names cover do not tell alike interpreters apart.
-/

namespace Gamebook

namespace Script

/-- What the names cover: code, expressions, and the variables with these names. -/
def Names.demands (names : Names) : Demands where
  code text := ∀ program, Program.ofText text = .ok program → program.within names = true
  expression text := ∀ e, Expr.ofText text = .ok e → e.within names = true
  name name := names.has name = true
  run text := ∀ program, Program.ofText text = .ok program → program.within names = true
  text template := ∀ chars, .expression chars ∈ Template.parse template.toList →
    ∀ e, Expr.ofText (String.ofList chars) = .ok e → e.within names = true

theorem Names.full_demands (names : Names) : names.demands.Full where
  run h := h
  text h := h

namespace Scope

/-- Dropping older bindings of a name loses no look-up. -/
theorem find?_compactFrom {name : String} {seen : List String} (h : name ∉ seen) (scope : Scope) :
    find? name (compactFrom seen scope) = find? name scope := by
  induction scope generalizing seen with
  | nil => rfl
  | cons b older ih =>
    rw [compactFrom, find?]
    split
    · next hseen =>
      rw [ih h, if_neg]
      rintro rfl
      exact h (List.contains_iff_mem.mp hseen)
    · rw [find?]
      split
      · rfl
      · next hne => exact ih (by simp [h, Ne.symm hne])

theorem find?_compact (name : String) (scope : Scope) :
    find? name scope.compact = find? name scope := find?_compactFrom List.not_mem_nil scope

theorem Agree.compact {names : Names} {a b : Scope} (h : Agree names a b) :
    Agree names a.compact b.compact := fun name hname => by
  rw [find?_compact, find?_compact, h name hname]

theorem Agree.put {names : Names} {a b : Scope} (h : Agree names a b) {name : String}
    (hname : names.has name = true) (value : Item) :
    Agree names (put name value a) (put name value b) := by
  unfold Scope.put
  rw [h name hname]
  split
  · exact h.write name value
  · exact h.append [⟨name, false, value⟩]

end Scope

/-- A run that is blind to all but some names ends alike in worlds that agree on these. -/
theorem Run.Blind.start {α : Type} {run : Run α} {names known : Names}
    (h : Run.Blind names names known run) (w w' : World) (hs : Scope.Agree names w.scope w'.scope)
    (hd : w.dice = w'.dice) :
    (run.start w).1 = (run.start w').1 ∧
      Scope.Agree names (run.start w).2.1.scope (run.start w').2.1.scope ∧
      (run.start w).2.1.dice = (run.start w').2.1.dice := by
  obtain ⟨hresult, fresh, old, old', hnear, -, -, -, -⟩ :=
    h.twins ⟨w, w.over_shape⟩ ⟨w', w'.over_shape⟩ ⟨rfl, rfl, hs, hd⟩ (.start names)
  refine ⟨hresult, ?_, hnear.dice⟩
  have hleft : (run.start w).2.1.scope = fresh ++ old := hnear.left
  have hright : (run.start w').2.1.scope = fresh ++ old' := hnear.right
  rw [hleft, hright]
  exact hnear.agree.append fresh

/-- What is constant below newer variables of a run was so at its start. -/
theorem Run.any_constant_start {α : Type} (run : Run α) (w : World) {fresh old : Scope}
    (hscope : (run.start w).2.1.scope = fresh ++ old) (hl : old.length = w.scope.length)
    (name : String) : (Scope.find? name old).any Binding.constant =
      (Scope.find? name w.scope).any Binding.constant := by
  obtain ⟨newer, base, hshape, rfl⟩ := (run.start w).2.2
  rw [hscope, Scope.shape, List.map_append] at hshape
  have hbase : Scope.shape old = w.scope.shape :=
    (List.append_inj' hshape (by rw [List.length_map, Scope.length_shape, hl])).2
  rw [Scope.any_constant, Scope.any_constant, hbase]

/-- A variable that no script names is still a variable in both worlds, unless the run has brought
another of this name into view, which is the same in both. -/
theorem Run.Blind.start_variable {α : Type} {run : Run α} {names known : Names}
    (h : Run.Blind names names known run) (w w' : World) (hs : Scope.Agree names w.scope w'.scope)
    (hd : w.dice = w'.dice) {name : String}
    (hw : (Scope.find? name w.scope).any Binding.constant = false)
    (hw' : (Scope.find? name w'.scope).any Binding.constant = false) :
    ((Scope.find? name (run.start w).2.1.scope).any Binding.constant = false ∧
        (Scope.find? name (run.start w').2.1.scope).any Binding.constant = false) ∨
      Scope.find? name (run.start w).2.1.scope = Scope.find? name (run.start w').2.1.scope := by
  obtain ⟨-, fresh, old, old', hnear, hl, hl', -, -⟩ :=
    h.twins ⟨w, w.over_shape⟩ ⟨w', w'.over_shape⟩ ⟨rfl, rfl, hs, hd⟩ (.start names)
  have hleft : (run.start w).2.1.scope = fresh ++ old := hnear.left
  have hright : (run.start w').2.1.scope = fresh ++ old' := hnear.right
  have hconstant := run.any_constant_start w hleft hl name
  have hconstant' := run.any_constant_start w' hright hl' name
  rw [hleft, hright, Scope.find?_append, Scope.find?_append]
  cases Scope.find? name fresh with
  | some b => exact .inr rfl
  | none => exact .inl ⟨hconstant.trans hw, hconstant'.trans hw'⟩

/-- The names cover what the body of a procedure reads besides its parameters. -/
def Procedure.within (known : Names) (procedure : Procedure) : Bool :=
  blockWithin (known.insertAll procedure.params) procedure.body.body

namespace Interpreter

/-- The interpreters have the same functions, which the names cover, and the same dice; they have
the procedures and helpers of one at the beginning; and their scopes agree on the names. -/
structure Alike (names : Names) (origin a b : Interpreter) : Prop where
  scope : Scope.Agree names a.scope b.scope
  dice : a.dice = b.dice
  functions : a.functions = b.functions
  covered : ∀ f ∈ a.functions, f.within names = true
  procedures : a.procedures = origin.procedures ∧ b.procedures = origin.procedures
  helpers : a.helpers = origin.helpers ∧ b.helpers = origin.helpers

variable {names : Names} {origin a b : Interpreter}

namespace Alike

theorem setupWith (h : Alike names origin a b) (functions : List Function) :
    a.setupWith functions = b.setupWith functions := by
  rw [Interpreter.setupWith, Interpreter.setupWith, h.functions, h.helpers.1, h.helpers.2]

/-- What is in the left one alone, is in both. -/
theorem left (h : Alike names origin a b) : Alike names origin a a :=
  ⟨.refl _ _, rfl, rfl, h.covered, ⟨h.procedures.1, h.procedures.1⟩,
    ⟨h.helpers.1, h.helpers.1⟩⟩

theorem enclosed {run : Run Item} {known : Names} (hrun : Run.Blind names names known run)
    (h : Alike names origin a b) :
    Same (Alike names origin) (enclosed run a) (enclosed run b) := by
  obtain ⟨hresult, hscope, hdice⟩ := hrun.locally.start a.world b.world h.scope h.dice
  exact ⟨congrArg resultOf hresult, hscope, hdice, h.functions, h.covered, h.procedures, h.helpers⟩

/-- Functions that take the place of others are covered if they and the others are. -/
theorem merge_functions (h : Alike names origin a b) {newer : List Function}
    (hnewer : ∀ f ∈ newer, f.within names = true) :
    Alike names origin { a with functions := merge a.functions newer }
      { b with functions := merge b.functions newer } where
  scope := h.scope
  dice := h.dice
  functions := congrArg (merge · newer) h.functions
  covered f hf := by
    rcases List.mem_append.mp hf with hf | hf
    · exact hnewer f hf
    · exact h.covered f (List.mem_filter.mp hf).1
  procedures := h.procedures
  helpers := h.helpers

theorem execute {code : String} (hcode : names.demands.code code) (h : Alike names origin a b) :
    Same (Alike names origin) (a.execute code) (b.execute code) := by
  unfold Interpreter.execute
  split
  · exact ⟨rfl, h⟩
  · next program hprogram =>
    have hwithin := hcode program hprogram
    rw [Program.within, Bool.and_eq_true, List.all_eq_true] at hwithin
    have h' := h.merge_functions hwithin.2
    dsimp only
    rw [← h'.setupWith []]
    obtain ⟨hresult, hscope, hdice⟩ := (Evaluation.blind_script _ hwithin.1).start
      a.world b.world h.scope h.dice
    exact ⟨congrArg resultOf hresult, hscope.compact, hdice, h'.functions, h'.covered,
      h.procedures, h.helpers⟩

theorem evaluate {expression : String} (hexpression : names.demands.expression expression)
    (h : Alike names origin a b) :
    Same (Alike names origin) (a.evaluate expression) (b.evaluate expression) := by
  unfold Interpreter.evaluate
  split
  · exact ⟨rfl, h⟩
  · next e he =>
    have hbody : blockWithin names [.value e] = true := by
      rw [blockWithin, Stmt.within, hexpression e he]
      rfl
    rw [← h.setupWith []]
    exact h.enclosed (Evaluation.blind_script _ hbody)

theorem read {name : String} (hname : names.has name = true) (h : Alike names origin a b) :
    a.read name = b.read name := by
  rw [Interpreter.read, Interpreter.read, h.scope name hname]

/-- Writing a variable of another name changes nothing that counts. -/
theorem write (name : String) (value : Value) (h : Alike names origin a b) :
    Alike names origin (a.write name value).2 (b.write name value).2 := by
  have hkept : ∀ it : Interpreter, (it.write name value).2 =
      { it with scope := (it.write name value).2.scope } := fun it => by
    unfold Interpreter.write
    split <;> rfl
  have hscope : Scope.Agree names (a.write name value).2.scope (b.write name value).2.scope := by
    unfold Interpreter.write
    by_cases hname : names.has name = true
    · rw [h.scope name hname]
      split
      · exact h.scope
      · exact h.scope.put hname _
    · intro other hother
      have hne : name ≠ other := by
        rintro rfl
        exact hname hother
      have hsame : ∀ it : Interpreter,
          Scope.find? other (it.write name value).2.scope = Scope.find? other it.scope := by
        intro it
        unfold Interpreter.write
        split
        · rfl
        · exact Scope.find?_put_of_ne hne _ _
      exact (hsame a).trans ((h.scope other hother).trans (hsame b).symm)
  rw [hkept a, hkept b]
  exact ⟨hscope, h.dice, h.functions, h.covered, h.procedures, h.helpers⟩

theorem hasFunction (name : String) (h : Alike names origin a b) :
    a.hasFunction name = b.hasFunction name := by
  rw [Interpreter.hasFunction, Interpreter.hasFunction, hasScripted, hasScripted, h.functions,
    h.procedures.1, h.procedures.2]

theorem blind_bindParams {known : Names} (params : List String) (items : List Item) :
    Run.Blind names known (known.insertAll params) (bindParams params items) := by
  induction params generalizing known items with
  | nil => exact .pure _
  | cons p rest ih =>
    cases items with
    | nil => exact .bind (.declare _ _ _) fun _ => ih []
    | cons item items => exact .bind (.declare _ _ _) fun _ => ih items

theorem blind_procedureRun (it : Interpreter) {procedure : Procedure} (items : List Item)
    (hp : procedure.within names = true) :
    Run.Blind names names (names.insertAll procedure.params) (it.procedureRun procedure items) :=
  .bind (blind_bindParams _ _) fun _ => Evaluation.blind_script _ hp

theorem blind_functionRun (it : Interpreter) {f : Function} (items : List Item)
    (hf : f.within names = true) :
    Run.Blind names names (names.insertAll f.params) (it.functionRun f items) := by
  refine .bind (blind_bindParams _ _) fun _ => .bind (.outcome
    (Evaluation.blind_evaluator _ _ _ (.statements f.body true) hf)) fun result => ?_
  split
  · exact .ite (.exit _) (.exit _)
  · exact .ofExcept _

theorem call (horigin : ∀ entry ∈ origin.procedures, entry.2.within names = true) (name : String)
    (args : List Value) (h : Alike names origin a b) :
    Same (Alike names origin) (a.call name args) (b.call name args) := by
  unfold Interpreter.call
  rw [h.procedures.2, ← h.procedures.1]
  dsimp only
  split
  · next procedure hprocedure =>
    have hp := horigin _ (h.procedures.1 ▸ Fields.mem_of_find? hprocedure)
    have hrun : b.procedureRun procedure (args.map Item.ofValue) =
        a.procedureRun procedure (args.map Item.ofValue) := by
      rw [procedureRun, procedureRun, h.setupWith]
    rw [hrun]
    exact h.enclosed (blind_procedureRun a _ hp)
  · rw [hasScripted, hasScripted, h.functions]
    split
    · exact ⟨rfl, h⟩
    · rw [← h.setupWith []]
      split
      · next f hf =>
        have hcovered : f.within names = true := by
          rcases List.mem_append.mp (List.mem_of_find?_eq_some hf) with hmem | hmem
          · cases hmem
          · exact h.covered f (List.mem_filter.mp hmem).1
        have hrun : b.functionRun f (args.map Item.ofValue) =
            a.functionRun f (args.map Item.ofValue) := by
          rw [functionRun, functionRun, h.setupWith]
        rw [hrun]
        exact h.enclosed (blind_functionRun a _ hcovered)
      · exact ⟨rfl, h⟩

end Alike

end Interpreter

/-! ## Alike but for the scratch record -/

/-- The names with that of the scratch record. -/
def Names.withScratch (names : Names) : Names := names.insert Stage.scratchName

/-- What the names cover before a section is entered: its code and its text may be anything. -/
def Names.early (names : Names) : Demands where
  code text := names.demands.code text ∧ names.withScratch.demands.code text
  expression text := names.demands.expression text ∧ names.withScratch.demands.expression text
  name := names.demands.name
  run _ := True
  text _ := True

namespace Interpreter

/-- The interpreters are alike under the names, and they would be alike under that of the scratch
record if it were reset: either both may write it, or it is the same already. -/
structure AlikeApart (names : Names) (origin a b : Interpreter) : Prop where
  alike : Alike names origin a b
  covered : ∀ f ∈ a.functions, f.within names.withScratch = true
  scratch : (a.isConstant Stage.scratchName = false ∧ b.isConstant Stage.scratchName = false) ∨
    Scope.find? Stage.scratchName a.scope = Scope.find? Stage.scratchName b.scope

namespace AlikeApart

theorem settled (h : AlikeApart names origin a b)
    (hscratch : Scope.find? Stage.scratchName a.scope = Scope.find? Stage.scratchName b.scope) :
    Alike names.withScratch origin a b where
  scope name hname := by
    rw [Names.withScratch, Names.has_insert, Bool.or_eq_true, beq_iff_eq] at hname
    rcases hname with rfl | hname
    · exact hscratch
    · exact h.alike.scope name hname
  dice := h.alike.dice
  functions := h.alike.functions
  covered := h.covered
  procedures := h.alike.procedures
  helpers := h.alike.helpers

/-- The left one with itself. -/
theorem left (h : AlikeApart names origin a b) : Alike names.withScratch origin a a :=
  ⟨.refl _ _, rfl, rfl, h.covered, h.alike.left.procedures, h.alike.left.helpers⟩

/-- A request that does not tell interpreters apart that are alike under the names, with or without
that of the scratch record, and frees no constant. -/
theorem request {α : Type} {f : Interpreter → α × Interpreter}
    (h : AlikeApart names origin a b) (halike : Same (Alike names origin) (f a) (f b))
    (hsettled : ∀ {b}, Alike names.withScratch origin a b →
      Same (Alike names.withScratch origin) (f a) (f b))
    (hscratch : a.isConstant Stage.scratchName = false → b.isConstant Stage.scratchName = false →
      ((f a).2.isConstant Stage.scratchName = false ∧
        (f b).2.isConstant Stage.scratchName = false) ∨
      Scope.find? Stage.scratchName (f a).2.scope = Scope.find? Stage.scratchName (f b).2.scope) :
    Same (AlikeApart names origin) (f a) (f b) := by
  refine ⟨halike.result, halike.state, (hsettled h.left).state.covered, ?_⟩
  rcases h.scratch with ⟨ha, hb⟩ | hsame
  · exact hscratch ha hb
  · exact .inr ((hsettled (h.settled hsame)).state.scope _ (by simp [Names.withScratch]))

theorem execute {code : String} (hcode : names.early.code code) (h : AlikeApart names origin a b) :
    Same (AlikeApart names origin) (a.execute code) (b.execute code) := by
  refine h.request (h.alike.execute hcode.1) (fun h' => h'.execute hcode.2) fun ha hb => ?_
  unfold Interpreter.execute
  split
  · exact .inl ⟨ha, hb⟩
  · next program hprogram =>
    have hwithin := hcode.1 program hprogram
    rw [Program.within, Bool.and_eq_true, List.all_eq_true] at hwithin
    have h' := h.alike.merge_functions hwithin.2
    dsimp only
    rw [← h'.setupWith [], isConstant, isConstant, Scope.find?_compact, Scope.find?_compact]
    exact (Evaluation.blind_script _ hwithin.1).start_variable a.world b.world h.alike.scope
      h.alike.dice ha hb

theorem evaluate {expression : String} (hexpression : names.early.expression expression)
    (h : AlikeApart names origin a b) :
    Same (AlikeApart names origin) (a.evaluate expression) (b.evaluate expression) :=
  h.request (h.alike.evaluate hexpression.1) (fun h' => h'.evaluate hexpression.2) fun ha hb =>
    .inl ⟨(isConstant_evaluate _ _ a).trans ha, (isConstant_evaluate _ _ b).trans hb⟩

theorem call (horigin : ∀ entry ∈ origin.procedures,
      entry.2.within names = true ∧ entry.2.within names.withScratch = true)
    (name : String) (args : List Value) (h : AlikeApart names origin a b) :
    Same (AlikeApart names origin) (a.call name args) (b.call name args) :=
  h.request (h.alike.call (fun entry hmem => (horigin entry hmem).1) name args)
    (fun h' => h'.call (fun entry hmem => (horigin entry hmem).2) name args) fun ha hb =>
    .inl ⟨(isConstant_call _ _ _ a).trans ha, (isConstant_call _ _ _ b).trans hb⟩

theorem write (name : String) (value : Value) (h : AlikeApart names origin a b) :
    AlikeApart names origin (a.write name value).2 (b.write name value).2 := by
  refine ⟨h.alike.write name value, (h.left.write name value).covered, ?_⟩
  rw [isConstant_write, isConstant_write]
  rcases h.scratch with hvariable | hsame
  · exact .inl hvariable
  · exact .inr (((h.settled hsame).write name value).scope _ (by simp [Names.withScratch]))

/-- Once the scratch record is reset, the interpreters are alike under its name as well. -/
theorem reset (value : Value) (h : AlikeApart names origin a b) :
    Alike names.withScratch origin (a.write Stage.scratchName value).2
      (b.write Stage.scratchName value).2 := by
  rcases h.scratch with ⟨ha, hb⟩ | hsame
  · refine (h.write _ value).settled ?_
    rw [write_free ha, write_free hb]
    dsimp only
    rw [Scope.find?_put_free ha, Scope.find?_put_free hb, if_pos rfl, if_pos rfl]
  · exact (h.settled hsame).write _ value

end AlikeApart

end Interpreter

/-- Requests that the names cover do not tell alike interpreters apart. -/
theorem engine_indifferent {names : Names} {origin : Interpreter}
    (hreserved : ∀ name ∈ [Stage.redirectName, Stage.aliasName], names.has name = true)
    (horigin : ∀ entry ∈ origin.procedures, entry.2.within names = true) :
    engine.Indifferent names.demands (Interpreter.Alike names origin) where
  execute hcode _ _ h := h.execute hcode
  evaluate hexpression _ _ h := h.evaluate hexpression
  read hname _ _ h := h.read hname
  write name value _ _ h := h.write name value
  hasFunction name _ _ h := h.hasFunction name
  call name args _ _ h := h.call horigin name args
  dice? h := congrArg some h.dice
  reserved := hreserved

/-- So it is before a section is entered with interpreters that are alike but for the scratch
record. -/
theorem engine_indifferent_early {names : Names} {origin : Interpreter}
    (hreserved : ∀ name ∈ [Stage.redirectName, Stage.aliasName], names.has name = true)
    (horigin : ∀ entry ∈ origin.procedures,
      entry.2.within names = true ∧ entry.2.within names.withScratch = true) :
    engine.Indifferent names.early (Interpreter.AlikeApart names origin) where
  execute hcode _ _ h := h.execute hcode
  evaluate hexpression _ _ h := h.evaluate hexpression
  read hname _ _ h := h.alike.read hname
  write name value _ _ h := h.write name value
  hasFunction name _ _ h := h.alike.hasFunction name
  call name args _ _ h := h.call horigin name args
  dice? h := congrArg some h.alike.dice
  reserved := hreserved

end Script

end Gamebook
