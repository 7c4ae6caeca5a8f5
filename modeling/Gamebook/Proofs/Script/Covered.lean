import Gamebook.Proofs.Script.Blind

/-!
# What scripts do not see

A script is blind to all variables but those of the names that cover it: one lemma for each rule of
evaluation, by induction on what the rule goes through, and then for the evaluator by induction on
its fuel. A function that a script calls is blind to everything but its parameters, whatever its
body names, since it runs over variables of its own.

* `Evaluation.blind_invoke` : a function sees its parameters.
* `Evaluation.blind_statement`, `Evaluation.blind_statements` : statements see the names that cover
  them and bring others into view.
* `Evaluation.blind_script` : a script sees the names that cover it.
-/

namespace Gamebook

namespace Script

namespace Evaluation

/-- The names cover what the task reads. -/
def Task.within (known : Names) : Task → Bool
  | .expression e => e.within known
  | .statements body _ => blockWithin known body

/-- The evaluator is blind to all but the names that cover the task. -/
def Evaluator.Blind (eval : Evaluator) : Prop :=
  ∀ {names known : Names} (depth : Nat) (task : Task), task.within known = true →
    Run.Blind names known known (eval depth task)

variable {setup : Setup} {eval : Evaluator} {names known : Names}

section Failures

variable {α : Type}

theorem blind_answered (place : Place) (answer : Except Cause α) :
    Run.Blind names known known (answered place answer) := by
  cases answer with
  | ok a => exact .pure a
  | error cause => exact .fail cause place

theorem blind_truth (item : Item) (place : Place) :
    Run.Blind names known known (truth item place) := by
  cases item with
  | bool b => exact .pure b
  | _ => exact .fail _ place

end Failures

variable (heval : eval.Blind)
include heval

/-! ### Functions -/

/-- A function sees its parameters and what it is called on. -/
theorem blind_invoke (depth : Nat) (f : Function) (args : List Item) (this? : Option Item)
    (place : Place) : Run.Blind names known known (invoke eval depth f args this? place) := by
  unfold invoke
  split
  · exact .pure _
  · refine .bind (.elsewhere _ (heval _ _ (blockWithin_all f.body))) fun ended => ?_
    obtain ⟨result, own⟩ := ended
    dsimp only
    split
    · exact .pure _
    · split <;> exact .pure _
    · exact .pure _

omit heval in
theorem blind_callLibrary (name : String) (args : List Item) (place : Place) :
    Run.Blind names known known (callLibrary setup name args place) := by
  unfold callLibrary
  refine @Run.Blind.outcome _ _ _ known _ ?_
  split
  · refine .bind (.roll _) fun result => ?_
    cases result with
    | ok n => exact .pure _
    | error refusal => exact .fail _ _
  · split
    · exact .bind (blind_answered _ _) fun _ => .pure _
    · exact .fail _ _

theorem blind_callByName (depth : Nat) (name : String) (args : List Item) (place : Place) :
    Run.Blind names known known (callByName setup eval depth name args place) := by
  unfold callByName
  split
  · exact .bind (blind_invoke heval _ _ _ _ _) fun _ => .ofExcept _
  · exact .bind (blind_callLibrary _ _ _) fun _ => .bind (.ofExcept _) fun _ => .pure _

/-- What the language itself answers is blind to all variables, unless it is asked whether one is
there. -/
theorem blind_special (depth : Nat) (name : String) (args : List Item) (place : Place)
    {run : Run Item} (h : special setup eval depth name args place = some run)
    (hname : name = "is_def_var" → known.isAll = true) : Run.Blind names known known run := by
  unfold special at h
  split at h <;> try cases h
  case h_1 => exact .pure _
  case h_2 =>
    split
    · exact .pure _
    · exact .fail _ _
  case h_3 => exact .fail _ _
  case h_4 => exact blind_callByName heval _ _ _ _
  case h_5 => exact .bind (.find? (Names.has_of_isAll (hname rfl) _)) fun _ => .pure _
  case h_6 => exact .pure _
  case h_7 => exact .pure _
  case h_8 => exact .exit _
  case h_9 => exact .exit _

/-! ### Variables -/

omit heval in
theorem blind_homeOf {name : String} (h : known.has name = true) (declared : Bool)
    (place : Place) : Run.Blind names known known (homeOf setup name declared place) := by
  unfold homeOf
  split
  · exact .pure _
  · refine .bind (.find? h) fun b? => ?_
    cases b? with
    | some b => exact .pure _
    | none => exact .fail _ _

omit heval in
theorem blind_homeOfThis (h : known.has thisName = true) (place : Place) :
    Run.Blind names known known (homeOfThis place) := by
  refine .bind (.find? h) fun b? => ?_
  cases b? with
  | some b => exact .pure _
  | none => exact .fail _ _

omit heval in
theorem blind_put (home : Home) (item : Item) : Run.Blind names known known (home.put item) := by
  cases home with
  | held b =>
    exact .ite (.pure _) (.write _ _)
  | nowhere other => exact .pure _

omit heval in
theorem blind_home? {e : Expr} {find : Run Home} (h : home? setup e = some find)
    (he : e.within known = true) : Run.Blind names known known find := by
  unfold home? at h
  split at h <;> cases h
  · exact blind_homeOf he _ _
  · exact blind_homeOfThis he _

/-! ### Calls -/

theorem blind_evaluateAll (depth : Nat) {es : List Expr} (h : areWithin known es = true) :
    Run.Blind names known known (evaluateAll eval depth es) := by
  suffices hloop : ∀ done, Run.Blind names known known
      (List.mapM.loop (fun e => eval depth (.expression e)) es done) from hloop []
  induction es with
  | nil => exact fun _ => .pure _
  | cons e rest ih =>
    intro done
    rw [areWithin, Bool.and_eq_true] at h
    exact .bind (heval depth (.expression e) h.1) fun item => ih h.2 _

theorem blind_evaluateArguments (depth : Nat) {args : List Expr}
    (h : areWithin known args = true) :
    Run.Blind names known known (evaluateArguments setup eval depth args) := by
  unfold evaluateArguments
  split
  · exact .pure _
  · next first others =>
    split
    · next find hfind =>
      rw [areWithin, Bool.and_eq_true] at h
      exact .bind (blind_evaluateAll heval depth h.2) fun _ =>
        .bind (blind_home? hfind h.1) fun _ => .pure _
    · exact .bind (blind_evaluateAll heval depth h) fun _ => .pure _

theorem blind_call (depth : Nat) {name : String} {args : List Expr} (scripted : Bool)
    (place : Place) (h : areWithin known args = true)
    (hname : name = "is_def_var" → known.isAll = true) :
    Run.Blind names known known (call setup eval depth name args scripted place) := by
  refine .bind (blind_evaluateArguments heval depth h) fun given => ?_
  obtain ⟨home?, items⟩ := given
  dsimp only
  split
  · next run hspecial => exact blind_special heval depth name items place hspecial hname
  · split
    · exact .bind (blind_invoke heval _ _ _ _ _) fun _ => .ofExcept _
    · refine .bind (blind_callLibrary _ _ _) fun _ => .bind (.ofExcept _) fun reply => ?_
      split
      · exact .bind (blind_put _ _) fun _ => .pure _
      · exact .pure _

theorem blind_callMethod (depth : Nat) (constant : Bool) (target : Item) (name : String)
    (args : List Item) (place : Place) : Run.Blind names known known
      (callMethod setup eval depth constant target name args place) := by
  unfold callMethod
  dsimp only
  split
  · split
    · exact .bind (blind_invoke heval _ _ _ _ _) fun _ => .pure _
    · exact .bind (.outcome (blind_callByName heval _ _ _ _)) fun _ => .pure _
  · split
    · -- what the language answers to a method is no question about variables
      next run hspecial hname =>
      refine .bind (.outcome (blind_special heval depth name _ place hspecial ?_)) fun _ => .pure _
      rintro rfl
      simp at hname
    · split
      · exact .bind (blind_invoke heval _ _ _ _ _) fun _ => .pure _
      · split
        · exact .pure _
        · refine .bind (blind_callLibrary _ _ _) fun reply => ?_
          cases reply with
          | ok given => exact .pure _
          | error reason => exact .pure _

/-! ### Chains -/

theorem blind_prepare (depth : Nat) {links : List Link} (h : linksWithin known links = true) :
    Run.Blind names known known (prepare eval depth links) := by
  induction links with
  | nil => exact .pure _
  | cons link rest ih =>
    cases link with
    | property name guarded place => exact .bind (ih h) fun _ => .pure _
    | index key guarded place =>
      rw [linksWithin, Bool.and_eq_true] at h
      exact .bind (heval depth (.expression key) h.1) fun _ => .bind (ih h.2) fun _ => .pure _
    | method name args guarded place =>
      rw [linksWithin, Bool.and_eq_true] at h
      exact .bind (blind_evaluateAll heval depth h.1) fun _ => .bind (ih h.2) fun _ => .pure _

omit heval in
/-- A view is walked on and written back, whatever it is a view of. -/
theorem blind_view {depth : Nat} {constant create : Bool}
    {act : Item → Run (Except Exit Item × Item)} {rest : List Step} {target : Item}
    (view : Except Cause View) (place : Place)
    (h : ∀ item, Run.Blind names known known
      (walk setup eval depth constant create act rest item)) :
    Run.Blind names known known (match view with
      | .error cause => pure (.error (.failed { cause := cause, place := some place }), target)
      | .ok view => do
        let (result, new) ← walk setup eval depth constant create act rest view.item
        if create || rest.any Step.isMethod then pure (result, view.put new)
        else pure (result, target) : Run (Except Exit Item × Item)) := by
  cases view with
  | error cause => exact .pure _
  | ok view =>
    refine .bind (h view.item) fun ended => ?_
    dsimp only
    split <;> exact .pure _

section Walking

variable {act : Item → Run (Except Exit Item × Item)}
  (hact : ∀ item, Run.Blind names known known (act item))
include hact

theorem blind_walk (depth : Nat) (constant create : Bool) (steps : List Step) (target : Item) :
    Run.Blind names known known (walk setup eval depth constant create act steps target) := by
  induction steps generalizing constant target with
  | nil => exact hact target
  | cons step rest ih =>
    unfold walk
    refine .ite (.pure _) ?_
    cases step with
    | property name guarded place => exact blind_view _ place (ih constant)
    | key key guarded place => exact blind_view _ place (ih constant)
    | method name args guarded place =>
      refine .bind (blind_callMethod heval depth constant target name args place) fun ended => ?_
      obtain ⟨result, changed⟩ := ended
      cases result with
      | error reason => exact .pure _
      | ok item =>
        dsimp only
        split
        · exact .pure _
        · exact .bind (ih false item) fun _ => .pure _

theorem blind_walkHome (depth : Nat) (home : Home) (create : Bool) (steps : List Step) :
    Run.Blind names known known (walkHome setup eval depth home create act steps) := by
  refine .bind (blind_walk heval hact depth _ create steps _) fun ended => ?_
  dsimp only
  split
  · exact .bind (blind_put _ _) fun _ => .ofExcept _
  · exact .ofExcept _

end Walking

theorem blind_readChain (depth : Nat) {root : Expr} {links : List Link}
    (hroot : root.within known = true) (hlinks : linksWithin known links = true) :
    Run.Blind names known known (readChain setup eval depth root links) := by
  refine .bind (blind_prepare heval depth hlinks) fun steps => ?_
  dsimp only
  split
  · next find hfind =>
    exact .bind (blind_home? hfind hroot) fun home =>
      blind_walkHome heval (fun _ => .pure _) depth home false steps
  · exact .bind (heval depth (.expression root) hroot) fun _ =>
      blind_walkHome heval (fun _ => .pure _) depth _ false steps

/-! ### Assignments -/

omit heval in
theorem blind_assignHome (home : Home) (name : String) (sign : Option String) (new : Item)
    (target place : Place) :
    Run.Blind names known known (assignHome home name sign new target place) := by
  cases home with
  | nowhere item => exact .fail _ _
  | held b =>
    unfold assignHome
    dsimp only
    split
    · exact .fail _ _
    · exact .bind (blind_answered _ _) fun _ => .write _ _

theorem blind_assign (depth : Nat) (sign : Option String) {target value : Expr} (place : Place)
    (htarget : target.within known = true) (hvalue : value.within known = true) :
    Run.Blind names known known (assign setup eval depth sign target value place) := by
  refine .bind (heval depth (.expression value) hvalue) fun new => ?_
  split
  · next root links =>
    rw [Expr.within, Bool.and_eq_true] at htarget
    refine .bind (blind_prepare heval depth htarget.2) fun steps => ?_
    split
    · next find hfind =>
      refine .bind (blind_home? hfind htarget.1) fun home => ?_
      split
      · exact .fail _ _
      · exact .bind (blind_walkHome heval (fun _ => .pure _) depth home true steps)
          fun _ => .pure _
    · exact .pure _
  · split
    · next find hfind =>
      exact .bind (blind_home? hfind htarget) fun home => blind_assignHome _ _ _ _ _ _
    · exact .pure _

omit heval in
/-- An assignment through a sign reads no more. -/
theorem within_sharpened (sign : Option String) (target : Expr) {value : Expr}
    (h : value.within known = true) : (sharpened sign target value).2.within known = true := by
  unfold sharpened
  split
  · split
    · rw [Expr.within, areWithin, areWithin, areWithin, Bool.and_eq_true, Bool.and_eq_true] at h
      exact h.2.1
    · exact h
  · exact h

/-! ### Operators -/

theorem blind_operate (depth : Nat) (sign : String) {operands : List Expr} (place : Place)
    (h : areWithin known operands = true) :
    Run.Blind names known known (operate eval depth sign operands place) := by
  refine .bind (blind_evaluateAll heval depth h) fun items => ?_
  dsimp only
  split
  · exact blind_answered _ _
  · exact .fail _ _

/-! ### Blocks and loops -/

theorem blind_runBlock (depth : Nat) {body : List Stmt} (keep : Bool)
    (h : blockWithin known body = true) :
    Run.Blind names known known (runBlock eval depth body keep) :=
  .locally (heval depth (.statements body keep) h)

theorem blind_turn (depth : Nat) {body : List Stmt} (h : blockWithin known body = true) :
    Run.Blind names known known (turn eval depth body) := by
  refine .bind (.outcome (blind_runBlock heval depth false h)) fun result => ?_
  split
  · exact .pure _
  · exact .pure _
  · exact .pure _
  · exact .exit _

/-- A turn of a loop ends the loop or goes on with the next. -/
theorem blind_turnThen (depth : Nat) {body : List Stmt} {β : Type} (again : β)
    (h : blockWithin known body = true) : Run.Blind names known known (do
      match ← turn eval depth body with
      | some item => pure (.ok item)
      | none => pure (.error again) : Run (Except β Item)) := by
  refine .bind (blind_turn heval depth h) fun left => ?_
  cases left with
  | some item => exact .pure _
  | none => exact .pure _

theorem blind_repeating (depth : Nat) {guard : Option Expr} {body : List Stmt}
    (hguard : ∀ e, guard = some e → e.within known = true) (h : blockWithin known body = true) :
    Run.Blind names known known (repeating eval depth guard body) := by
  refine .untilDone (fun _ => ?_) _ _
  cases guard with
  | none => exact blind_turnThen heval depth () h
  | some e =>
    refine .bind (heval depth (.expression e) (hguard e rfl)) fun _ =>
      .bind (blind_truth _ _) fun goes => ?_
    cases goes with
    | true => exact blind_turnThen heval depth () h
    | false => exact .pure _

theorem blind_afterwards (depth : Nat) {body : List Stmt} {guard : Expr} (wanted : Bool)
    (h : blockWithin known body = true) (hguard : guard.within known = true) :
    Run.Blind names known known (afterwards eval depth body guard wanted) := by
  refine .untilDone (fun _ => .bind (blind_turn heval depth h) fun left => ?_) _ _
  cases left with
  | some item => exact .pure _
  | none =>
    exact .bind (heval depth (.expression guard) hguard) fun _ =>
      .bind (blind_truth _ _) fun _ => .pure _

/-- The turns of a loop over items. -/
theorem blind_rounds (depth : Nat) (name : String) {counter : Option String} {body : List Stmt}
    (h : blockWithin ((known.insertAll counter.toList).insert name) body = true) (supply : Supply) :
    Run.Blind names (known.insertAll counter.toList)
      ((known.insertAll counter.toList).insert name) (do
        Run.declare name false .unit
        Run.untilDone (fun (at_ : Nat × Supply) => do
          match at_.2.next with
          | none => pure (.ok .unit)
          | some (item, rest) =>
            if let some counter := counter then Run.write counter (Library.size at_.1)
            Run.write name item
            match ← turn eval depth body with
            | some item => pure (.ok item)
            | none => pure (.error (at_.1 + 1, rest))) turnLimit (0, supply)) := by
  refine .bind (.declare _ _ _) fun _ => .untilDone (fun at_ => ?_) _ _
  split
  · exact .pure _
  · next item rest _ =>
    cases counter with
    | none => exact .bind (.write _ _) fun _ => blind_turnThen heval depth _ h
    | some counter =>
      exact .bind (.write _ _) fun _ => .bind (.write _ _) fun _ => blind_turnThen heval depth _ h

theorem blind_iterate (depth : Nat) (name : String) {counter : Option String} {items : Expr}
    {body : List Stmt} (hitems : items.within known = true)
    (h : blockWithin ((known.insertAll counter.toList).insert name) body = true) :
    Run.Blind names known known (iterate eval depth name counter items body) := by
  refine .bind (heval depth (.expression items) hitems) fun held => ?_
  split
  · exact .fail _ _
  · next supply _ =>
    cases counter with
    | none => exact .locally (blind_rounds heval depth name h supply)
    | some counter =>
      exact .locally (.bind (.declare _ _ _) fun _ => blind_rounds heval depth name h supply)

/-! ### Selections and attempts -/

omit heval in
theorem armsWithin_iff {arms : List Arm} :
    armsWithin known arms = true ↔ ∀ arm ∈ arms, armsWithin known [arm] = true := by
  induction arms with
  | nil => simp [armsWithin]
  | cons arm rest ih =>
    rw [List.forall_mem_cons, ← ih]
    obtain ⟨patterns, guard, body⟩ := arm
    cases guard <;> simp [armsWithin]

omit heval in
/-- What is selected is the body of an arm. -/
theorem returns_admitted (depth : Nat) {arms : List Arm} (h : armsWithin known arms = true) :
    (admitted eval depth arms).Returns fun chosen =>
      ∀ body, chosen = some body → body.within known = true := by
  induction arms with
  | nil => exact .pure fun _ hnone => by cases hnone
  | cons arm rest ih =>
    obtain ⟨patterns, guard, body⟩ := arm
    cases guard with
    | none =>
      rw [armsWithin, Bool.and_eq_true] at h
      exact .pure fun _ hsome => by cases hsome; exact h.1
    | some guard =>
      rw [armsWithin, Bool.and_eq_true, Bool.and_eq_true] at h
      refine .bind fun _ => .bind fun holds => ?_
      cases holds with
      | true => exact .pure fun _ hsome => by cases hsome; exact h.1.2
      | false => exact ih h.2

theorem blind_admitted (depth : Nat) {arms : List Arm} (h : armsWithin known arms = true) :
    Run.Blind names known known (admitted eval depth arms) := by
  induction arms with
  | nil => exact .pure _
  | cons arm rest ih =>
    obtain ⟨patterns, guard, body⟩ := arm
    cases guard with
    | none => exact .pure _
    | some guard =>
      rw [armsWithin, Bool.and_eq_true, Bool.and_eq_true] at h
      refine .bind (heval depth (.expression guard) h.1.1) fun _ =>
        .bind (blind_truth _ _) fun holds => ?_
      cases holds with
      | true => exact .pure _
      | false => exact ih h.2

omit heval in
/-- The arm for everything else is an arm. -/
theorem within_fallback {arms : List Arm} (h : armsWithin known arms = true) {body : Stmt}
    (hbody : arms.findSome? (fun
      | .mk [] _ body => some body
      | _ => none) = some body) : body.within known = true := by
  obtain ⟨arm, hmem, harm⟩ := List.exists_of_findSome?_eq_some hbody
  have hwithin := armsWithin_iff.mp h arm hmem
  split at harm <;> cases harm
  next guard =>
  cases guard <;> simp_all [armsWithin]

theorem blind_select (depth : Nat) (item : Item) {arms : List Arm}
    (h : armsWithin known arms = true) :
    Run.Blind names known known (select eval depth item arms) := by
  unfold select
  dsimp only
  generalize hchosen : (if List.isEmpty _ = true then _ else _ : List Arm) = candidates
  have hcandidates : armsWithin known candidates = true := by
    rw [armsWithin_iff] at h ⊢
    intro arm hmem
    rw [← hchosen] at hmem
    split at hmem <;> exact h arm (List.mem_filter.mp hmem).1
  refine .bind_returning (blind_admitted heval depth hcandidates)
    (returns_admitted depth hcandidates) fun chosen hbody => ?_
  split
  · next body hsome =>
    refine blind_runBlock heval depth true ?_
    rw [blockWithin, blockWithin, Bool.and_true]
    rcases Option.or_eq_some_iff.mp hsome with hsome | ⟨-, hsome⟩
    · exact hbody body hsome
    · exact within_fallback h hsome
  · exact .pure _

/-- What an attempt goes on with when its body has failed. -/
theorem blind_rescue (depth : Nat) {rescue : List Stmt} {caught : Option String} (item : Item)
    (h : blockWithin (known.insertAll caught.toList) rescue = true) :
    Run.Blind names known (known.insertAll caught.toList) (do
      if let some name := caught then Run.declare name false item
      runBlock eval depth rescue false) := by
  cases caught with
  | none => exact blind_runBlock heval depth false h
  | some name => exact .bind (.declare _ _ _) fun _ => blind_runBlock heval depth false h

theorem blind_attempt (depth : Nat) {body rescue : List Stmt} {caught : Option String}
    (h : blockWithin known body = true)
    (hrescue : blockWithin (known.insertAll caught.toList) rescue = true) :
    Run.Blind names known known (attempt eval depth body caught rescue) := by
  refine .bind (.outcome (blind_runBlock heval depth false h)) fun result => ?_
  split
  · next trouble =>
    refine .ite ?_ (.exit _)
    refine .bind (.outcome (.locally (blind_rescue heval depth _ hrescue))) fun saved => ?_
    split
    · split <;> exact .exit _
    · exact .ofExcept _
  · exact .ofExcept _

/-! ### Expressions and statements -/

omit heval in
theorem areWithin_map_snd {fields : List (String × Expr)} (h : fieldsWithin known fields = true) :
    areWithin known (fields.map Prod.snd) = true := by
  induction fields with
  | nil => rfl
  | cons field rest ih =>
    rw [fieldsWithin, Bool.and_eq_true] at h
    rw [List.map_cons, areWithin, Bool.and_eq_true]
    exact ⟨h.1, ih h.2⟩

theorem blind_expression (depth : Nat) {e : Expr} (h : e.within known = true) :
    Run.Blind names known known (expression setup eval depth e) := by
  unfold expression
  split <;> simp only [Expr.within, Bool.and_eq_true] at h
  case h_1 => exact .pure _
  case h_2 => exact .bind (blind_evaluateAll heval depth h) fun _ => .pure _
  case h_3 => exact .bind (blind_evaluateAll heval depth h) fun _ => .pure _
  case h_4 =>
    exact .bind (blind_evaluateAll heval depth (areWithin_map_snd h)) fun _ => .pure _
  case h_5 => exact .bind (blind_homeOf h _ _) fun _ => .pure _
  case h_6 => exact .bind (blind_homeOfThis h _) fun _ => .pure _
  case h_7 => exact heval depth (.expression _) h.1
  case h_8 =>
    refine .bind (heval depth (.expression _) h.1) fun _ => .bind (blind_truth _ _) fun _ =>
      .ite ?_ (.pure _)
    exact .bind (heval depth (.expression _) h.2) fun _ => .bind (blind_truth _ _) fun _ => .pure _
  case h_9 => exact heval depth (.expression _) h.1
  case h_10 =>
    refine .bind (heval depth (.expression _) h.1) fun _ => .bind (blind_truth _ _) fun _ =>
      .ite (.pure _) ?_
    exact .bind (heval depth (.expression _) h.2) fun _ => .bind (blind_truth _ _) fun _ => .pure _
  case h_11 =>
    refine .bind (heval depth (.expression _) h.1) fun item => ?_
    split
    · exact heval depth (.expression _) h.2
    · exact .pure _
  case h_12 => exact blind_operate heval depth _ _ h
  case h_13 =>
    refine blind_call heval depth false _ ?_ (fun hname => absurd hname (by decide))
    rw [areWithin, areWithin, areWithin, h.1, h.2]
    rfl
  case h_14 =>
    refine blind_call heval depth true _ h.2 fun hname => ?_
    simpa [hname] using h.1
  case h_15 => exact blind_readChain heval depth h.1 h.2
  case h_16 => exact blind_runBlock heval depth true h
  case h_17 =>
    refine blind_runBlock heval depth true ?_
    rw [blockWithin, blockWithin, h]
    rfl

theorem blind_optional (depth : Nat) {value : Option Expr}
    (h : ∀ e, value = some e → e.within known = true) :
    Run.Blind names known known (optional eval depth value) := by
  cases value with
  | none => exact .pure _
  | some e => exact heval depth (.expression e) (h e rfl)

/-- A statement is blind to all but the names that cover it, and brings a name into view if it
declares one. -/
theorem blind_statement (depth : Nat) (keep : Bool) {s : Stmt} (h : s.within known = true) :
    Run.Blind names known (known.insertAll s.brings) (statement setup eval depth keep s) := by
  cases s with
  | value e => exact heval depth (.expression e) h
  | declare name constant value place =>
    refine .bind (blind_optional heval depth ?_) fun _ => .bind (.declare _ _ _) fun _ => .pure _
    rintro e rfl
    exact h
  | assign sign target value place =>
    rw [Stmt.within, Bool.and_eq_true] at h
    exact .bind (blind_assign heval depth _ place h.1 (within_sharpened sign target h.2))
      fun _ => .pure _
  | branch guard body otherwise place =>
    rw [Stmt.within, Bool.and_eq_true, Bool.and_eq_true] at h
    refine .bind (heval depth (.expression guard) h.1.1) fun _ => .ite (.pure _) ?_
    exact .bind (blind_truth _ _) fun _ =>
      .ite (blind_runBlock heval depth keep h.1.2) (blind_runBlock heval depth keep h.2)
  | select item arms place =>
    rw [Stmt.within, Bool.and_eq_true] at h
    exact .bind (heval depth (.expression item) h.1) fun item => blind_select heval depth item h.2
  | repeating guard body place =>
    cases guard with
    | none =>
      change Run.Blind _ _ _ (repeating eval depth none body)
      exact blind_repeating heval depth (by simp) h
    | some guard =>
      rw [Stmt.within, Bool.and_eq_true] at h
      change Run.Blind _ _ _ (repeating eval depth (some guard) body)
      exact blind_repeating heval depth (by simpa using h.1) h.2
  | afterwards body guard wanted place =>
    rw [Stmt.within, Bool.and_eq_true] at h
    exact blind_afterwards heval depth wanted h.1 h.2
  | each name counter items body place =>
    rw [Stmt.within, Bool.and_eq_true] at h
    exact blind_iterate heval depth name h.1 h.2
  | block body place => exact blind_runBlock heval depth keep h
  | leave value place =>
    refine .bind (blind_optional heval depth ?_) fun _ => .exit _
    rintro e rfl
    exact h
  | skip place => exact .exit _
  | give value place =>
    refine .bind (blind_optional heval depth ?_) fun _ => .exit _
    rintro e rfl
    exact h
  | raise value place =>
    refine .bind (blind_optional heval depth ?_) fun _ => .fail _ _
    rintro e rfl
    exact h
  | attempt body caught rescue place =>
    rw [Stmt.within, Bool.and_eq_true] at h
    exact .ite (.pure _) (blind_attempt heval depth h.1 h.2)

omit heval in
/-- A statement without effect brings nothing into view. -/
theorem brings_of_isPure {s : Stmt} (h : s.isPure = true) : s.brings = [] := by
  cases s <;> first | rfl | cases h

theorem blind_statements (depth : Nat) (keep : Bool) (last : Item) {body : List Stmt}
    (h : blockWithin known body = true) :
    Run.Blind names known known (statements setup eval depth keep last body) := by
  induction body generalizing known last with
  | nil => exact .pure _
  | cons s rest ih =>
    rw [blockWithin, Bool.and_eq_true] at h
    unfold statements
    split
    · next hskipped =>
      rw [Bool.and_eq_true] at hskipped
      rw [brings_of_isPure hskipped.1] at h
      exact ih _ h.2
    · exact .stays (.bind (blind_statement heval depth keep h.1) fun item => ih item h.2)

end Evaluation

/-- Evaluation is blind to all variables but those of the names that cover the task. -/
theorem Evaluation.blind_evaluator (setup : Setup) (fuel : Nat) :
    Evaluator.Blind (evaluator setup fuel) := by
  induction fuel with
  | zero => exact fun _ _ _ => .exit _
  | succ fuel ih =>
    intro names known depth task h
    cases task with
    | expression e => exact blind_expression ih depth h
    | statements body keep => exact blind_statements ih depth keep .unit h

/-- A script is blind to all variables but those of the names that cover it. -/
theorem Evaluation.blind_script (setup : Setup) {names known : Names} {body : List Stmt}
    (h : blockWithin known body = true) : Run.Blind names known known (script setup body) :=
  blind_evaluator setup taskLimit 0 (.statements body true) h

end Script

end Gamebook
