import Gamebook.Proofs.Script.Built
import Gamebook.Proofs.Script.Constants
import Gamebook.Proofs.Script.Covered

/-!
# Calls of procedures

A procedure sees the variables of the game, with its parameters in view above them. Whatever its
body does and however it ends, the scope is afterwards what it was, but for the values of variables
that the body has written; and a variable that a parameter hides is not among these, since a script
writes to the newest variable of a name and takes none out of view that it has not brought there.

* `Scope.outline` : the shape of a scope, with the values of some variables.
* `Run.Built.spares` : a run leaves alone the older variables that newer ones hide.
* `Scope.parameters` : the parameters of a procedure, with the arguments that they have.
* `Interpreter.call_eq` : a call of a procedure is a run of its body over its parameters.
* `Interpreter.call_procedure` : what it sees, what it leaves and what it answers.
-/

namespace Gamebook

namespace Script

namespace Scope

/-! ## Hidden variables -/

/-- The shape of a scope, with the values of the variables of these names. -/
def outline (names : List String) (scope : Scope) : List (String × Bool × Option Item) :=
  scope.map fun b => (b.name, b.constant, if b.name ∈ names then some b.value else none)

variable {names fewer : List String} {before after : Scope}

theorem length_of_outline (h : outline names after = outline names before) :
    after.length = before.length := by
  simpa [outline] using congrArg List.length h

/-- The values of fewer variables are the same as well. -/
theorem outline_mono (h : outline names after = outline names before)
    (hsub : ∀ name ∈ fewer, name ∈ names) : outline fewer after = outline fewer before := by
  have hforget : ∀ scope : Scope, outline fewer scope = (outline names scope).map fun entry =>
      (entry.1, entry.2.1, if entry.1 ∈ fewer then entry.2.2 else none) := by
    intro scope
    rw [outline, outline, List.map_map]
    refine List.map_congr_left fun b _ => ?_
    by_cases hb : b.name ∈ fewer
    · simp [hb, hsub b.name hb]
    · simp [hb]
  rw [hforget, hforget, h]

/-- What is written to a variable of another name leaves these alone. -/
theorem outline_write {name : String} (h : name ∉ names) (value : Item) (scope : Scope) :
    outline names (write name value scope) = outline names scope := by
  induction scope with
  | nil => rfl
  | cons b older ih =>
    rw [write]
    split
    · next hname => simp [outline, hname, h]
    · exact congrArg (List.cons _) ih

/-- A variable of one of these names stays where it is, with its value. -/
theorem getElem?_of_outline (h : outline names after = outline names before) {i : Nat}
    {b : Binding} (hb : before[i]? = some b) (hname : b.name ∈ names) : after[i]? = some b := by
  have hentry := congrArg (·[i]?) h
  simp only [outline, List.getElem?_map, hb, Option.map_some, Option.map_eq_some_iff,
    Prod.mk.injEq] at hentry
  obtain ⟨b', hb', hsame, hconstant, hvalue⟩ := hentry
  rw [hsame, if_pos hname, if_pos hname, Option.some.injEq] at hvalue
  obtain ⟨⟩ := b
  obtain ⟨⟩ := b'
  obtain ⟨rfl, rfl, rfl⟩ : _ ∧ _ ∧ _ := ⟨hsame, hconstant, hvalue⟩
  exact hb'

/-- One of these names shows the same. -/
theorem find?_of_outline (h : outline names after = outline names before) {name : String}
    (hname : name ∈ names) : find? name after = find? name before := by
  induction before generalizing after with
  | nil =>
    obtain rfl := List.map_eq_nil_iff.mp h
    rfl
  | cons b older ih =>
    obtain ⟨b', older', rfl⟩ := List.exists_cons_of_length_pos
      (by rw [length_of_outline h]; exact Nat.zero_lt_succ _)
    have hold := ih (List.cons.inj h).2
    have hsame : b'.name = b.name := congrArg Prod.fst (List.cons.inj h).1
    rw [find?, find?, hsame, hold]
    split
    · next heq =>
      exact getElem?_of_outline h (i := 0) rfl (heq ▸ hname)
    · rfl

/-- The scope is that of newer variables above older ones, and some more above: those that were
there are still there, and the older ones that newer ones hide have their values. -/
def Spares (newer older after : Scope) : Prop :=
  ∃ newer' older', after = newer' ++ older' ∧
    newer.map Binding.name <:+ newer'.map Binding.name ∧
    outline (newer.map Binding.name) older' = outline (newer.map Binding.name) older

theorem Spares.refl (newer older : Scope) : Spares newer older (newer ++ older) :=
  ⟨newer, older, rfl, List.suffix_rfl, rfl⟩

theorem spares_write (newer older : Scope) (name : String) (value : Item) :
    Spares newer older (write name value (newer ++ older)) := by
  rw [write_append]
  split
  · exact ⟨_, older, rfl, (map_name_write name value newer).symm ▸ List.suffix_rfl, rfl⟩
  · next hnone =>
    rw [find?_isSome] at hnone
    exact ⟨newer, _, rfl, List.suffix_rfl, outline_write hnone value older⟩

/-- What a local run has brought into view goes, and the variables from before stay. -/
theorem Spares.rewind {newer older : Scope} (h : Spares newer older after) :
    Spares newer older (rewind (newer ++ older).length after) := by
  obtain ⟨newer', older', rfl, hs, holder⟩ := h
  rw [Run.Blind.rewind_append hs (length_of_outline holder)]
  exact ⟨_, older', rfl, Run.Blind.map_name_drop hs ▸ List.suffix_rfl, holder⟩

/-- Without the newer variables the older ones are left, those that were hidden with their
values. -/
theorem Spares.outline_rewind {newer older : Scope} (h : Spares newer older after) :
    outline (newer.map Binding.name) (Scope.rewind older.length after) =
      outline (newer.map Binding.name) older := by
  obtain ⟨newer', older', rfl, -, holder⟩ := h
  have hdrop : Scope.rewind older.length (newer' ++ older') = older' := by
    rw [Scope.rewind, List.length_append, length_of_outline holder, Nat.add_sub_cancel,
      List.drop_left]
  rw [hdrop, holder]

end Scope

/-- A script leaves alone the older variables that newer ones hide. -/
theorem Run.Built.spares {declares : Bool} {α : Type} {run : Run α} (h : run.Built declares)
    {base : Shape → Prop} (w : {w : World // w.Over base}) {newer older : Scope}
    (hscope : w.1.scope = newer ++ older) :
    Scope.Spares newer older (run base w).2.1.scope := by
  induction h generalizing base newer older with
  | pure a => exact hscope ▸ .refl newer older
  | exit reason => exact hscope ▸ .refl newer older
  | find? name => exact hscope ▸ .refl newer older
  | roll draw => exact hscope ▸ .refl newer older
  | elsewhere own _ _ => exact hscope ▸ .refl newer older
  | declare name constant value =>
    change Scope.Spares newer older (w.1.scope.declare name constant value)
    rw [hscope]
    exact ⟨_ :: newer, older, rfl, List.suffix_cons _ _, rfl⟩
  | write name value =>
    change Scope.Spares newer older (w.1.scope.write name value)
    exact hscope ▸ Scope.spares_write newer older name value
  | outcome _ ih => exact ih w hscope
  | @bind _ α β run f _ _ ih ihf =>
    have hfirst := ih w hscope
    rw [Run.Blind.bind_apply]
    rcases hend : run base w with ⟨reason | a, after⟩ <;> rw [hend] at hfirst
    · exact hfirst
    · obtain ⟨newer₁, older₁, hscope₁, hs₁, holder₁⟩ := hfirst
      obtain ⟨newer₂, older₂, hscope₂, hs₂, holder₂⟩ := ihf a after hscope₁
      refine ⟨newer₂, older₂, hscope₂, hs₁.trans hs₂, ?_⟩
      exact (Scope.outline_mono holder₂ fun name hname => hs₁.subset hname).trans holder₁
  | @locally _ α run _ ih =>
    change Scope.Spares newer older
      (Scope.rewind w.1.scope.length (run (· = w.1.scope.shape) ⟨w.1, w.1.over_shape⟩).2.1.scope)
    have hinner := (ih ⟨w.1, w.1.over_shape⟩ hscope).rewind
    have hlength := congrArg List.length hscope
    rwa [← hlength] at hinner

/-- Near worlds without older variables are the same. -/
theorem Near.eq {names : Names} {fresh : Scope} {w w' : World} (h : Near names fresh [] [] w w') :
    w = w' := by
  obtain ⟨scope, dice⟩ := w
  obtain ⟨scope', dice'⟩ := w'
  obtain rfl : scope = scope' := h.left.trans h.right.symm
  obtain rfl : dice = dice' := h.dice
  rfl

/-- What a script does is told by the world in which it starts, whichever part of the scope counts
as old. -/
theorem Evaluation.script_apply (setup : Setup) (body : List Stmt) {base : Shape → Prop}
    (w : {w : World // w.Over base}) :
    (script setup body base w).1 = ((script setup body).start w.1).1 ∧
      (script setup body base w).2.1 = ((script setup body).start w.1).2.1 := by
  have hnear : Near .all w.1.scope [] [] w.1 w.1 :=
    ⟨(List.append_nil _).symm, (List.append_nil _).symm, .refl _ _, rfl⟩
  have hknown : Known .all .all w.1.scope := ⟨fun _ _ => .inl rfl, fun _ => rfl⟩
  obtain ⟨hresult, fresh, old, old', hends, hl, hl', -, -⟩ :=
    (blind_script setup (blockWithin_all body)).twins w ⟨w.1, w.1.over_shape⟩ hnear hknown
  obtain rfl := List.length_eq_zero_iff.mp hl
  obtain rfl := List.length_eq_zero_iff.mp hl'
  exact ⟨hresult, hends.eq⟩

/-! ## Parameters -/

namespace Scope

/-- The parameters of a procedure with their arguments, or unit, newest first. -/
def parameters (params : List String) (args : List Item) : Scope :=
  (params.mapIdx fun i param => ⟨param, false, args[i]?.getD .unit⟩).reverse

theorem parameters_cons (param : String) (params : List String) (args : List Item) :
    parameters (param :: params) args =
      parameters params args.tail ++ [⟨param, false, args.head?.getD .unit⟩] := by
  rw [parameters, List.mapIdx_cons, List.reverse_cons, List.head?_eq_getElem?, parameters]
  simp only [List.getElem?_tail]

theorem map_name_parameters (params : List String) (args : List Item) :
    (parameters params args).map Binding.name = params.reverse := by
  induction params generalizing args with
  | nil => rfl
  | cons param rest ih =>
    rw [parameters_cons, List.map_append, ih, List.reverse_cons]
    rfl

/-- A parameter has the argument at its last position. -/
theorem find?_parameters {params : List String} (args : List Item) {i : Nat} {param : String}
    (hi : params[i]? = some param) (hlast : ∀ j, i < j → params[j]? ≠ some param) :
    find? param (parameters params args) = some ⟨param, false, args[i]?.getD .unit⟩ := by
  induction params generalizing args i with
  | nil => cases hi
  | cons first rest ih =>
    rw [parameters_cons, find?_append]
    cases i with
    | zero =>
      obtain rfl : first = param := by simpa using hi
      have hnone : find? first (parameters rest args.tail) = none := by
        rw [← Option.not_isSome_iff_eq_none, find?_isSome, map_name_parameters, List.mem_reverse,
          List.mem_iff_getElem?]
        rintro ⟨j, hj⟩
        exact hlast (j + 1) (Nat.zero_lt_succ j) hj
      rw [hnone, Option.none_or, find?, if_pos rfl, List.head?_eq_getElem?]
    | succ i =>
      rw [ih args.tail hi fun j hj => hlast (j + 1) (Nat.succ_lt_succ hj), Option.some_or,
        List.getElem?_tail]

end Scope

namespace Interpreter

/-- Binding parameters brings them into view and does nothing else. -/
theorem bindParams_apply (params : List String) (args : List Item) {base : Shape → Prop}
    (w : {w : World // w.Over base}) :
    (bindParams params args base w).1 = .ok () ∧
      (bindParams params args base w).2.1 =
        ⟨Scope.parameters params args ++ w.1.scope, w.1.dice⟩ := by
  induction params generalizing args w with
  | nil => exact ⟨rfl, rfl⟩
  | cons param rest ih =>
    have hrest := fun args value => ih args (Run.declare param false value base w).2
    cases args with
    | nil =>
      refine ⟨(hrest [] .unit).1, (hrest [] .unit).2.trans ?_⟩
      rw [Scope.parameters_cons, List.append_assoc]
      rfl
    | cons arg args =>
      refine ⟨(hrest args arg).1, (hrest args arg).2.trans ?_⟩
      rw [Scope.parameters_cons, List.append_assoc]
      rfl

/-! ## Calls -/

/-- The world in which the body of a procedure starts. -/
def bodyWorld (it : Interpreter) (procedure : Procedure) (args : List Value) : World :=
  ⟨Scope.parameters procedure.params (args.map Item.ofValue) ++ it.scope, it.dice⟩

/-- What the body of a procedure does in that world. -/
def bodyEnd (it : Interpreter) (procedure : Procedure) (args : List Value) :
    Except Exit Item × World :=
  let (result, after) := (Evaluation.script (it.setupWith procedure.body.functions)
    procedure.body.body).start (it.bodyWorld procedure args)
  (result, after.1)

/-- Over any part of the scope that counts as old, the body starts with the parameters in view. -/
theorem procedureRun_apply (it : Interpreter) (procedure : Procedure) (args : List Value)
    {base : Shape → Prop} (w : {w : World // w.Over base}) (hw : w.1 = it.world) :
    (it.procedureRun procedure (args.map Item.ofValue)).ending w = it.bodyEnd procedure args := by
  obtain ⟨hok, hstarted⟩ := bindParams_apply procedure.params (args.map Item.ofValue) w
  rw [Run.ending, procedureRun, Run.Blind.bind_apply]
  rcases hend : bindParams procedure.params (args.map Item.ofValue) base w with ⟨result, started⟩
  rw [hend] at hok hstarted
  obtain rfl : result = .ok () := hok
  obtain ⟨hresult, hafter⟩ := Evaluation.script_apply (it.setupWith procedure.body.functions)
    procedure.body.body started
  have hworld : started.1 = it.bodyWorld procedure args := by
    rw [hstarted, hw]
    rfl
  refine Prod.ext (hresult.trans ?_) (hafter.trans ?_)
  · rw [hworld]
    rfl
  · rw [hworld]
    rfl

/-- A call of a procedure is a run of its body, without what that has brought into view. -/
theorem call_eq {it : Interpreter} {name : String} {procedure : Procedure}
    (h : Fields.find? name it.procedures = some procedure) (args : List Value) :
    it.call name args =
      (resultOf (it.bodyEnd procedure args).1,
        it.withWorld ⟨Scope.rewind it.scope.length (it.bodyEnd procedure args).2.scope,
          (it.bodyEnd procedure args).2.dice⟩) := by
  have hend := it.procedureRun_apply procedure args ⟨it.world, it.world.over_shape⟩ rfl
  unfold call
  rw [h, ← hend]
  rfl

/-- What a call of a procedure does. -/
structure Called (it : Interpreter) (procedure : Procedure) (args : List Value)
    (answer : Except Fault Value) (after : Interpreter) : Prop where
  /-- When the body starts, the parameters stand above the variables of the game. -/
  above : ∃ params : Scope, (it.bodyWorld procedure args).scope = params ++ it.scope ∧
    params.map Binding.name = procedure.params.reverse
  /-- A parameter has the argument at its last position, and unit if there are not so many. -/
  param : ∀ (i : Nat) (param : String), procedure.params[i]? = some param →
    (∀ j, i < j → procedure.params[j]? ≠ some param) →
    Scope.find? param (it.bodyWorld procedure args).scope =
      some ⟨param, false, .ofValue (args[i]?.getD .nil)⟩
  /-- The answer is what the body ends with, however it ends. -/
  answer : answer = resultOf (it.bodyEnd procedure args).1
  /-- What the body has brought into view goes with the parameters. -/
  leaves : after = it.withWorld
    ⟨Scope.rewind it.scope.length (it.bodyEnd procedure args).2.scope,
      (it.bodyEnd procedure args).2.dice⟩
  /-- The same names are in view in the same order, and the same are constants. -/
  shape : after.scope.shape = it.scope.shape
  /-- The variables that have the name of a parameter are what they were. -/
  hidden : ∀ (i : Nat) (b : Binding), it.scope[i]? = some b → b.name ∈ procedure.params →
    after.scope[i]? = some b
  reads : ∀ param ∈ procedure.params, after.read param = it.read param

/-- The body of a procedure runs over its parameters and the variables of the game; afterwards these
are there as they were, but for what the body has assigned to those that it saw. -/
theorem call_procedure {it : Interpreter} {name : String} {procedure : Procedure}
    (h : Fields.find? name it.procedures = some procedure) (args : List Value) :
    Called it procedure args (it.call name args).1 (it.call name args).2 := by
  have hcall := call_eq h args
  have hshape := shape_call name args it
  rw [hcall] at hshape ⊢
  have hnames := Scope.map_name_parameters procedure.params (args.map Item.ofValue)
  have hspares : Scope.Spares (Scope.parameters procedure.params (args.map Item.ofValue)) it.scope
      (it.bodyEnd procedure args).2.scope :=
    (Evaluation.built_script _ _).spares ⟨it.bodyWorld procedure args, World.over_shape _⟩ rfl
  have houtline := hspares.outline_rewind
  rw [hnames] at houtline
  refine ⟨⟨_, rfl, hnames⟩, fun i param hi hlast => ?_, rfl, rfl, hshape, fun i b hb hname => ?_,
    fun param hparam => ?_⟩
  · have hparam := Scope.find?_parameters (args.map Item.ofValue) hi hlast
    rw [bodyWorld, Scope.find?_append, hparam, Option.some_or, List.getElem?_map]
    cases args[i]? <;> rfl
  · exact Scope.getElem?_of_outline houtline hb (List.mem_reverse.mpr hname)
  · have hfind := Scope.find?_of_outline houtline (List.mem_reverse.mpr hparam)
    rw [read, read, withWorld, hfind]

/-- A procedure with a parameter twice that hides a variable, writes to it, and fails. -/
def spending : Procedure where
  params := ["gold", "debt", "gold"]
  body :=
    { functions := []
      body := [.assign (some "+") (.named "gold" true ⟨1, 1⟩) (.literal (.int 1) ⟨1, 9⟩) ⟨1, 1⟩,
        .raise (some (.named "gold" true ⟨1, 18⟩)) ⟨1, 12⟩] }

/-- Gold that the procedure does not see. -/
def purse : Interpreter where
  scope := [⟨"gold", false, .int 1⟩]
  procedures := [("spend", spending)]
  dice := 7

/-- The gold is safe, and the procedure counts from the last argument of that name. -/
theorem purse_spends :
    Fields.find? "spend" purse.procedures = some spending ∧
      (∀ args, Called purse spending args (purse.call "spend" args).1
        (purse.call "spend" args).2) ∧
      (purse.call "spend" [.int 4, .int 5, .int 6, .int 7]).1 =
        .error (failed "Runtime error: 7 (line 1, position 12)") :=
  ⟨rfl, call_procedure rfl, rfl⟩

end Interpreter

end Script

end Gamebook
