import Gamebook.Proofs.Script.Blind

/-!
# What scripts are put together from

Scripts do nothing to the world but look variables up, declare and write them, and roll dice; what
they declare in a block goes out of view, and functions run over variables of their own. So what all
these steps keep, and what putting them together keeps, every script keeps: it is proved by
induction on how the run is built, whatever the script is. Only statements declare variables; those
inside an expression stand in blocks.

* `Run.Built` : the ways in which runs are put together, of those that declare variables and of
  those that do not.
* `Evaluation.built_statement`, `Evaluation.built_expression` : the rules of evaluation put runs
  together from those of what is inside; one lemma for each.
* `Evaluation.built_script` : every script is put together so.
-/

namespace Gamebook

namespace Script

namespace Run

/-- The run is put together from single steps. One that is not said to declare variables does so
where they go out of view again only. -/
inductive Built : Bool → {α : Type} → Run α → Prop where
  | pure {declares : Bool} {α : Type} (a : α) : Built declares (Pure.pure a : Run α)
  | exit {declares : Bool} {α : Type} (reason : Exit) : Built declares (Run.exit reason : Run α)
  | bind {declares : Bool} {α β : Type} {run : Run α} {f : α → Run β} (h : Built declares run)
    (hf : ∀ a, Built declares (f a)) : Built declares (run >>= f)
  | outcome {declares : Bool} {α : Type} {run : Run α} (h : Built declares run) :
    Built declares (Run.outcome run)
  | find? {declares : Bool} (name : String) : Built declares (Run.find? name)
  | declare (name : String) (constant : Bool) (value : Item) :
    Built true (Run.declare name constant value)
  | write {declares : Bool} (name : String) (value : Item) : Built declares (Run.write name value)
  | roll {declares : Bool} {α : Type} (draw : UInt32 → α × UInt32) :
    Built declares (Run.roll draw)
  | locally {declares : Bool} {α : Type} {run : Run α} (h : Built true run) :
    Built declares (Run.locally run)
  | elsewhere {declares : Bool} {α : Type} (own : Scope) {run : Run α} (h : Built true run) :
    Built declares (Run.elsewhere own run)

namespace Built

variable {α β : Type} {declares : Bool}

/-- A run may be said to declare variables even if it does not. -/
theorem weaken {run : Run α} (h : Built false run) : Built declares run := by
  suffices hall : ∀ {first : Bool} {α : Type} {run : Run α}, Built first run → Built true run by
    cases declares with
    | false => exact h
    | true => exact hall h
  intro first α run h
  induction h with
  | pure a => exact .pure a
  | exit reason => exact .exit reason
  | bind _ _ ih ihf => exact .bind ih ihf
  | outcome _ ih => exact .outcome ih
  | find? name => exact .find? name
  | declare name constant value => exact .declare name constant value
  | write name value => exact .write name value
  | roll draw => exact .roll draw
  | locally h => exact .locally h
  | elsewhere own h => exact .elsewhere own h

theorem fail (cause : Cause) (place : Place) :
    Built declares (Run.fail cause place : Run α) := exit _

theorem ofExcept (result : Except Exit α) : Built declares (Run.ofExcept result) := by
  cases result with
  | ok a => exact .pure a
  | error reason => exact .exit reason

theorem ite {condition : Prop} [Decidable condition] {run other : Run α}
    (h : Built declares run) (h' : Built declares other) :
    Built declares (if condition then run else other) := by
  split
  · exact h
  · exact h'

theorem untilDone {turn : α → Run (Except α β)} (h : ∀ a, Built declares (turn a)) (fuel : Nat)
    (a : α) : Built declares (Run.untilDone turn fuel a) := by
  induction fuel generalizing a with
  | zero => exact .exit _
  | succ fuel ih =>
    rw [Blind.untilDone_succ]
    refine (h a).bind fun result => ?_
    cases result with
    | ok b => exact .pure b
    | error next => exact ih next

end Built

end Run

namespace Evaluation

open Run (Built)

/-- Statements may declare variables, expressions do not. -/
def Task.declares : Task → Bool
  | .expression _ => false
  | .statements _ _ => true

/-- Whatever the evaluator is asked for, the run is put together from single steps. -/
def Evaluator.Built (eval : Evaluator) : Prop :=
  ∀ (depth : Nat) (task : Task), Run.Built task.declares (eval depth task)

variable {setup : Setup} {eval : Evaluator} {declares : Bool}

theorem Evaluator.Built.expression (heval : eval.Built) (depth : Nat) (e : Expr) :
    Run.Built declares (eval depth (.expression e)) := (heval depth (.expression e)).weaken

theorem Evaluator.Built.block (heval : eval.Built) (depth : Nat) (body : List Stmt)
    (keep : Bool) : Run.Built declares (runBlock eval depth body keep) :=
  .locally (heval depth (.statements body keep))

theorem built_answered {α : Type} (place : Place) (answer : Except Cause α) :
    Built declares (answered place answer) := by
  cases answer with
  | ok a => exact .pure a
  | error cause => exact .fail cause place

theorem built_truth (item : Item) (place : Place) : Built declares (truth item place) := by
  cases item with
  | bool b => exact .pure b
  | _ => exact .fail _ place

/-! ### Variables -/

theorem built_homeOf (name : String) (declared : Bool) (place : Place) :
    Built declares (homeOf setup name declared place) := by
  unfold homeOf
  refine .ite (.pure _) (.bind (.find? name) fun b? => ?_)
  cases b? with
  | some b => exact .pure _
  | none => exact .fail _ _

theorem built_homeOfThis (place : Place) : Built declares (homeOfThis place) := by
  refine .bind (.find? _) fun b? => ?_
  cases b? with
  | some b => exact .pure _
  | none => exact .fail _ _

theorem built_put (home : Home) (item : Item) : Built declares (home.put item) := by
  cases home with
  | held b => exact .ite (.pure _) (.write _ _)
  | nowhere other => exact .pure _

theorem built_home? {e : Expr} {find : Run Home} (h : home? setup e = some find) :
    Built declares find := by
  unfold home? at h
  split at h <;> cases h
  · exact built_homeOf _ _ _
  · exact built_homeOfThis _

theorem built_assignHome (home : Home) (name : String) (sign : Option String) (new : Item)
    (target place : Place) : Built declares (assignHome home name sign new target place) := by
  cases home with
  | nowhere item => exact .fail _ _
  | held b =>
    unfold assignHome
    exact .ite (.fail _ _) (.bind (built_answered _ _) fun _ => .write _ _)

theorem built_callLibrary (name : String) (args : List Item) (place : Place) :
    Built declares (callLibrary setup name args place) := by
  refine .outcome ?_
  split
  · refine .bind (.roll _) fun result => ?_
    cases result with
    | ok n => exact .pure _
    | error refusal => exact .fail _ _
  · split
    · exact .bind (built_answered _ _) fun _ => .pure _
    · exact .fail _ _

section Rules

variable (heval : eval.Built) (depth : Nat)
include heval

/-! ### Functions -/

theorem built_invoke (f : Function) (args : List Item) (this? : Option Item) (place : Place) :
    Built declares (invoke eval depth f args this? place) := by
  unfold invoke
  refine .ite (.pure _) (.bind (.elsewhere _ (heval _ (.statements _ _))) fun ended => ?_)
  obtain ⟨result, own⟩ := ended
  dsimp only
  split
  · exact .pure _
  · split <;> exact .pure _
  · exact .pure _

theorem built_callByName (name : String) (args : List Item) (place : Place) :
    Built declares (callByName setup eval depth name args place) := by
  unfold callByName
  split
  · exact .bind (built_invoke heval ..) fun _ => .ofExcept _
  · exact .bind (built_callLibrary ..) fun _ => .bind (.ofExcept _) fun _ => .pure _

theorem built_special (name : String) (args : List Item) (place : Place) {run : Run Item}
    (h : special setup eval depth name args place = some run) : Built declares run := by
  unfold special at h
  split at h <;> try cases h
  case h_1 => exact .pure _
  case h_2 => exact .ite (.pure _) (.fail _ _)
  case h_3 => exact .fail _ _
  case h_4 => exact built_callByName heval ..
  case h_5 => exact .bind (.find? _) fun _ => .pure _
  case h_6 => exact .pure _
  case h_7 => exact .pure _
  case h_8 => exact .exit _
  case h_9 => exact .exit _

/-! ### Calls -/

theorem built_evaluateAll (es : List Expr) : Built declares (evaluateAll eval depth es) := by
  suffices hloop : ∀ done,
      Built declares (List.mapM.loop (fun e => eval depth (.expression e)) es done) from hloop []
  induction es with
  | nil => exact fun _ => .pure _
  | cons e rest ih => exact fun done => .bind (heval.expression _ _) fun item => ih (item :: done)

theorem built_evaluateArguments (args : List Expr) :
    Built declares (evaluateArguments setup eval depth args) := by
  unfold evaluateArguments
  split
  · exact .pure _
  · split
    · next find hfind =>
      exact .bind (built_evaluateAll heval _ _) fun _ => .bind (built_home? hfind) fun _ => .pure _
    · exact .bind (built_evaluateAll heval _ _) fun _ => .pure _

theorem built_call (name : String) (args : List Expr) (scripted : Bool) (place : Place) :
    Built declares (call setup eval depth name args scripted place) := by
  refine .bind (built_evaluateArguments heval depth args) fun given => ?_
  obtain ⟨home?, items⟩ := given
  dsimp only
  split
  · next run hspecial => exact built_special heval depth name items place hspecial
  · split
    · exact .bind (built_invoke heval ..) fun _ => .ofExcept _
    · refine .bind (built_callLibrary ..) fun _ => .bind (.ofExcept _) fun reply => ?_
      split
      · exact .bind (built_put _ _) fun _ => .pure _
      · exact .pure _

theorem built_callMethod (constant : Bool) (target : Item) (name : String) (args : List Item)
    (place : Place) :
    Built declares (callMethod setup eval depth constant target name args place) := by
  unfold callMethod
  dsimp only
  split
  · split
    · exact .bind (built_invoke heval ..) fun _ => .pure _
    · exact .bind (.outcome (built_callByName heval ..)) fun _ => .pure _
  · split
    · next run hspecial _ =>
      exact .bind (.outcome (built_special heval depth name _ place hspecial)) fun _ => .pure _
    · split
      · exact .bind (built_invoke heval ..) fun _ => .pure _
      · refine .ite (.pure _) (.bind (built_callLibrary ..) fun reply => ?_)
        cases reply with
        | ok given => exact .pure _
        | error reason => exact .pure _

/-! ### Chains -/

theorem built_prepare (links : List Link) : Built declares (prepare eval depth links) := by
  induction links with
  | nil => exact .pure _
  | cons link rest ih =>
    cases link with
    | property name guarded place => exact .bind ih fun _ => .pure _
    | index key guarded place =>
      exact .bind (heval.expression _ _) fun _ => .bind ih fun _ => .pure _
    | method name args guarded place =>
      exact .bind (built_evaluateAll heval _ args) fun _ => .bind ih fun _ => .pure _

omit heval in
/-- A view is walked on and written back, whatever it is a view of. -/
theorem built_view {constant create : Bool} {act : Item → Run (Except Exit Item × Item)}
    {rest : List Step} {target : Item} (view : Except Cause View) (place : Place)
    (h : ∀ item, Built declares (walk setup eval depth constant create act rest item)) :
    Built declares (match view with
      | .error cause => pure (.error (.failed { cause := cause, place := some place }), target)
      | .ok view => do
        let (result, new) ← walk setup eval depth constant create act rest view.item
        if create || rest.any Step.isMethod then pure (result, view.put new)
        else pure (result, target) : Run (Except Exit Item × Item)) := by
  cases view with
  | error cause => exact .pure _
  | ok view => exact .bind (h view.item) fun _ => .ite (.pure _) (.pure _)

section Walking

variable {act : Item → Run (Except Exit Item × Item)} (hact : ∀ item, Built declares (act item))
include hact

theorem built_walk (constant create : Bool) (steps : List Step) (target : Item) :
    Built declares (walk setup eval depth constant create act steps target) := by
  induction steps generalizing constant target with
  | nil => exact hact target
  | cons step rest ih =>
    unfold walk
    refine .ite (.pure _) ?_
    cases step with
    | property name guarded place => exact built_view depth _ place (ih constant)
    | key key guarded place => exact built_view depth _ place (ih constant)
    | method name args guarded place =>
      refine .bind (built_callMethod heval depth constant target name args place) fun ended => ?_
      obtain ⟨result, changed⟩ := ended
      cases result with
      | error reason => exact .pure _
      | ok item => exact .ite (.pure _) (.bind (ih false item) fun _ => .pure _)

theorem built_walkHome (home : Home) (create : Bool) (steps : List Step) :
    Built declares (walkHome setup eval depth home create act steps) := by
  refine .bind (built_walk heval depth hact _ create steps _) fun ended => ?_
  dsimp only
  split
  · exact .bind (built_put _ _) fun _ => .ofExcept _
  · exact .ofExcept _

end Walking

theorem built_readChain (root : Expr) (links : List Link) :
    Built declares (readChain setup eval depth root links) := by
  have hread (item : Item) :
      Built declares (pure (.ok item, item) : Run (Except Exit Item × Item)) := .pure _
  refine .bind (built_prepare heval depth links) fun steps => ?_
  dsimp only
  split
  · next find hfind =>
    exact .bind (built_home? hfind) fun home => built_walkHome heval depth hread home false steps
  · exact .bind (heval.expression _ _) fun _ => built_walkHome heval depth hread _ false steps

/-! ### Assignments and operators -/

theorem built_assign (sign : Option String) (target value : Expr) (place : Place) :
    Built declares (assign setup eval depth sign target value place) := by
  refine .bind (heval.expression _ _) fun new => ?_
  split
  · refine .bind (built_prepare heval depth _) fun steps => ?_
    split
    · next find hfind =>
      refine .bind (built_home? hfind) fun home => .ite (.fail _ _) ?_
      exact .bind (built_walkHome heval depth (fun _ => .pure _) home true steps) fun _ => .pure _
    · exact .pure _
  · split
    · next find hfind => exact .bind (built_home? hfind) fun home => built_assignHome _ _ _ _ _ _
    · exact .pure _

theorem built_operate (sign : String) (operands : List Expr) (place : Place) :
    Built declares (operate eval depth sign operands place) := by
  refine .bind (built_evaluateAll heval depth operands) fun items => ?_
  dsimp only
  split
  · exact built_answered _ _
  · exact .fail _ _

/-! ### Loops -/

theorem built_turn (body : List Stmt) : Built declares (turn eval depth body) := by
  refine .bind (.outcome (heval.block depth body false)) fun result => ?_
  split
  · exact .pure _
  · exact .pure _
  · exact .pure _
  · exact .exit _

/-- A turn of a loop ends the loop or goes on with the next. -/
theorem built_turnThen (body : List Stmt) {β : Type} (again : β) : Built declares (do
    match ← turn eval depth body with
    | some item => pure (.ok item)
    | none => pure (.error again) : Run (Except β Item)) := by
  refine .bind (built_turn heval depth body) fun left => ?_
  cases left with
  | some item => exact .pure _
  | none => exact .pure _

theorem built_repeating (guard : Option Expr) (body : List Stmt) :
    Built declares (repeating eval depth guard body) := by
  refine .untilDone (fun _ => ?_) _ _
  cases guard with
  | none => exact built_turnThen heval depth body ()
  | some e =>
    exact .bind (heval.expression _ _) fun _ => .bind (built_truth _ _) fun _ =>
      .ite (built_turnThen heval depth body ()) (.pure _)

theorem built_afterwards (body : List Stmt) (guard : Expr) (wanted : Bool) :
    Built declares (afterwards eval depth body guard wanted) := by
  refine .untilDone (fun _ => .bind (built_turn heval depth body) fun left => ?_) _ _
  cases left with
  | some item => exact .pure _
  | none => exact .bind (heval.expression _ _) fun _ => .bind (built_truth _ _) fun _ => .pure _

theorem built_iterate (name : String) (counter : Option String) (items : Expr)
    (body : List Stmt) : Built declares (iterate eval depth name counter items body) := by
  refine .bind (heval.expression _ _) fun held => ?_
  split
  · exact .fail _ _
  · cases counter with
    | none =>
      refine .locally (.bind (.declare _ _ _) fun _ => .untilDone (fun at_ => ?_) _ _)
      split
      · exact .pure _
      · exact .bind (.write _ _) fun _ => built_turnThen heval depth body _
    | some counter =>
      refine .locally (.bind (.declare _ _ _) fun _ => .bind (.declare _ _ _) fun _ =>
        .untilDone (fun at_ => ?_) _ _)
      split
      · exact .pure _
      · exact .bind (.write _ _) fun _ => .bind (.write _ _) fun _ =>
          built_turnThen heval depth body _

/-! ### Selections and attempts -/

theorem built_admitted (arms : List Arm) : Built declares (admitted eval depth arms) := by
  induction arms with
  | nil => exact .pure _
  | cons arm rest ih =>
    obtain ⟨patterns, guard, body⟩ := arm
    cases guard with
    | none => exact .pure _
    | some guard =>
      exact .bind (heval.expression _ _) fun _ => .bind (built_truth _ _) fun _ => .ite (.pure _) ih

theorem built_select (item : Item) (arms : List Arm) :
    Built declares (select eval depth item arms) := by
  refine .bind (built_admitted heval depth _) fun chosen => ?_
  dsimp only
  split
  · exact heval.block depth _ true
  · exact .pure _

theorem built_attempt (body : List Stmt) (caught : Option String) (rescue : List Stmt) :
    Built declares (attempt eval depth body caught rescue) := by
  have hrescue : Built true (runBlock eval depth rescue false) := heval.block depth rescue false
  refine .bind (.outcome (heval.block depth body false)) fun result => ?_
  split
  · refine .ite (.bind (.outcome (.locally ?_)) fun saved => ?_) (.exit _)
    · cases caught with
      | none => exact hrescue
      | some name => exact .bind (.declare _ _ _) fun _ => hrescue
    · split
      · split <;> exact .exit _
      · exact .ofExcept _
  · exact .ofExcept _

/-! ### Expressions and statements -/

theorem built_expression (e : Expr) : Built declares (expression setup eval depth e) := by
  unfold expression
  split
  case h_1 => exact .pure _
  case h_2 => exact .bind (built_evaluateAll heval _ _) fun _ => .pure _
  case h_3 => exact .bind (built_evaluateAll heval _ _) fun _ => .pure _
  case h_4 => exact .bind (built_evaluateAll heval _ _) fun _ => .pure _
  case h_5 => exact .bind (built_homeOf _ _ _) fun _ => .pure _
  case h_6 => exact .bind (built_homeOfThis _) fun _ => .pure _
  case h_7 => exact heval.expression _ _
  case h_8 =>
    refine .bind (heval.expression _ _) fun _ => .bind (built_truth _ _) fun _ => .ite ?_ (.pure _)
    exact .bind (heval.expression _ _) fun _ => .bind (built_truth _ _) fun _ => .pure _
  case h_9 => exact heval.expression _ _
  case h_10 =>
    refine .bind (heval.expression _ _) fun _ => .bind (built_truth _ _) fun _ => .ite (.pure _) ?_
    exact .bind (heval.expression _ _) fun _ => .bind (built_truth _ _) fun _ => .pure _
  case h_11 =>
    refine .bind (heval.expression _ _) fun item => ?_
    split
    · exact heval.expression _ _
    · exact .pure _
  case h_12 => exact built_operate heval _ _ _ _
  case h_13 => exact built_call heval _ _ _ _ _
  case h_14 => exact built_call heval _ _ _ _ _
  case h_15 => exact built_readChain heval _ _ _
  case h_16 => exact heval.block _ _ _
  case h_17 => exact heval.block _ _ _

theorem built_optional (value : Option Expr) : Built declares (optional eval depth value) := by
  cases value with
  | none => exact .pure _
  | some e => exact heval.expression _ _

theorem built_statement (keep : Bool) (s : Stmt) :
    Built true (statement setup eval depth keep s) := by
  have hoptional : ∀ value, Built true (optional eval depth value) := built_optional heval depth
  cases s with
  | value e => exact heval.expression _ _
  | declare name constant value place =>
    exact .bind (hoptional value) fun _ => .bind (.declare _ _ _) fun _ => .pure _
  | assign sign target value place =>
    exact .bind (built_assign heval depth _ _ _ place) fun _ => .pure _
  | branch guard body otherwise place =>
    exact .bind (heval.expression _ _) fun _ => .ite (.pure _) (.bind (built_truth _ _) fun _ =>
      .ite (heval.block depth body keep) (heval.block depth otherwise keep))
  | select item arms place =>
    exact .bind (heval.expression _ _) fun _ => built_select heval depth _ arms
  | repeating guard body place => exact built_repeating heval depth guard body
  | afterwards body guard wanted place => exact built_afterwards heval depth body guard wanted
  | each name counter items body place => exact built_iterate heval depth name counter items body
  | block body place => exact heval.block depth body keep
  | leave value place => exact .bind (hoptional value) fun _ => .exit _
  | skip place => exact .exit _
  | give value place => exact .bind (hoptional value) fun _ => .exit _
  | raise value place => exact .bind (hoptional value) fun _ => .fail _ _
  | attempt body caught rescue place =>
    exact .ite (.pure _) (built_attempt heval depth body caught rescue)

theorem built_statements (keep : Bool) (last : Item) (body : List Stmt) :
    Built true (statements setup eval depth keep last body) := by
  induction body generalizing last with
  | nil => exact .pure _
  | cons s rest ih =>
    unfold statements
    exact .ite (ih last) (.bind (built_statement heval depth keep s) fun item => ih item)

end Rules

/-- The evaluator puts its runs together from single steps, however deep it goes. -/
theorem built_evaluator (setup : Setup) (fuel : Nat) : Evaluator.Built (evaluator setup fuel) := by
  induction fuel with
  | zero => exact fun _ _ => .exit _
  | succ fuel ih =>
    intro depth task
    cases task with
    | expression e => exact built_expression ih depth e
    | statements body keep => exact built_statements ih depth keep .unit body

/-- Every script is put together from single steps. -/
theorem built_script (setup : Setup) (body : List Stmt) : Built true (script setup body) :=
  built_evaluator setup taskLimit 0 (.statements body true)

end Evaluation

end Script

end Gamebook
