import Gamebook.Proofs.Script.Constants
import Gamebook.Proofs.Story

/-!
# Declared variables

A snapshot holds the variables that a gamebook declares, whatever else its scripts have brought into
view, and putting variables back writes to no others. They are written in the order of declaration,
and the first one that has become a constant stops this: what was declared before it is written by
then, and nothing after it is.

* `Stage.Wrote` : variables were written, and nothing else was.
* `Story.putBackOf_free` : without constants all variables are put back.
* `Story.putBackOf_constant` : a constant stops it.
* `Story.roster_kept` : what putting back does, and what a snapshot is good for.
-/

namespace Gamebook

open Script

/-- Those of the variables that a state has are written, and nothing else has changed. -/
structure Stage.Wrote (state : Variables) (names : List String) (st after : Stage Interpreter) :
    Prop where
  written : ∀ name ∈ names, ∀ value, state.find? name = some value →
    Scope.find? name after.engine.scope = some ⟨name, false, .ofValue value⟩
  kept : ∀ name, (name ∈ names → state.find? name = none) →
    Scope.find? name after.engine.scope = Scope.find? name st.engine.scope
  rest : after = { st with engine := { st.engine with scope := after.engine.scope } }

namespace Stage

variable {state : Variables} {names : List String} {name : String} {st after : Stage Interpreter}

theorem Wrote.nil (state : Variables) (st : Stage Interpreter) : Wrote state [] st st :=
  ⟨fun _ hmem => absurd hmem List.not_mem_nil, fun _ _ => rfl, rfl⟩

/-- A variable that the state does not have is passed over. -/
theorem Wrote.skip (h : Wrote state names st after) (hnone : state.find? name = none) :
    Wrote state (name :: names) st after where
  written other hmem value hvalue := by
    rcases List.mem_cons.mp hmem with rfl | hmem
    · rw [hnone] at hvalue
      cases hvalue
    · exact h.written other hmem value hvalue
  kept other hother := h.kept other fun hmem => hother (List.mem_cons_of_mem _ hmem)
  rest := h.rest

/-- The engine after a variable that is no constant was written. -/
theorem write_free (hfree : st.isConstant name = false) (value : Value) :
    write Script.engine name value st = (.ok (), { st with engine := { st.engine with
      scope := Scope.put name (.ofValue value) st.engine.scope } }) := by
  rw [write, show Script.engine.write name value st.engine = _ from
    Interpreter.write_free hfree value]

/-- A constant is not written. -/
theorem write_constant (hconstant : st.isConstant name = true) (value : Value) :
    write Script.engine name value st = (.error (Interpreter.constant name), st) := by
  have hwrite : Script.engine.write name value st.engine =
      (.error (Interpreter.constant name), st.engine) := if_pos hconstant
  rw [write, hwrite]

theorem Wrote.cons {value : Value} (hvalue : state.find? name = some value)
    (hfree : st.isConstant name = false)
    (h : Wrote state names (put Script.engine name value st) after) :
    Wrote state (name :: names) st after := by
  rw [put, write_free hfree] at h
  have hput := Scope.find?_put_free hfree (.ofValue value)
  refine ⟨fun other hmem written hwritten => ?_, fun other hother => ?_, h.rest⟩
  · by_cases hagain : other ∈ names
    · exact h.written other hagain written hwritten
    · -- no later write touches the first variable
      obtain rfl : other = name := (List.mem_cons.mp hmem).resolve_right hagain
      obtain rfl : value = written := by simpa [hvalue] using hwritten
      rw [h.kept other fun hmem => absurd hmem hagain, hput, if_pos rfl]
  · have hne : name ≠ other := by
      rintro rfl
      rw [hother List.mem_cons_self] at hvalue
      cases hvalue
    rw [h.kept other fun hmem => hother (List.mem_cons_of_mem _ hmem), hput, if_neg hne]

/-- What was written reads as its value. -/
theorem Wrote.reads (h : Wrote state names st after) (hmem : name ∈ names) {value : Value}
    (hvalue : state.find? name = some value) : reads Script.engine name after = .ok value := by
  change Interpreter.read name after.engine = _
  rw [Interpreter.read, h.written name hmem value hvalue]
  change Interpreter.valueOf (.ofValue value) = _
  rw [Interpreter.valueOf, Item.toValue_ofValue]

end Stage

namespace Story

variable {state : Variables} {names before : List String} {name : String}

/-! ## Putting back -/

/-- Variables are put back one after the other. -/
theorem putBackOf_append (rest : List String) (st : Stage Interpreter) :
    putBackOf Script.engine state (before ++ rest) st =
      match putBackOf Script.engine state before st with
      | (.ok (), st) => putBackOf Script.engine state rest st
      | (.error fault, st) => (.error fault, st) := by
  induction before generalizing st with
  | nil => rfl
  | cons name before ih =>
    rw [List.cons_append, putBackOf, putBackOf]
    split
    · exact ih st
    · rcases Stage.write Script.engine name _ st with ⟨fault | ⟨⟩, after⟩
      · rfl
      · exact ih after

/-- Without constants all variables are put back. -/
theorem putBackOf_free {st : Stage Interpreter}
    (hfree : ∀ name ∈ names, state.has name = true → st.isConstant name = false) :
    ∃ after, putBackOf Script.engine state names st = (.ok (), after) ∧
      st.Wrote state names after := by
  induction names generalizing st with
  | nil => exact ⟨st, rfl, .nil state st⟩
  | cons name rest ih =>
    have hrest : ∀ other ∈ rest, state.has other = true → st.isConstant other = false :=
      fun other hmem => hfree other (List.mem_cons_of_mem _ hmem)
    cases hvalue : state.find? name with
    | none =>
      obtain ⟨after, hput, hwrote⟩ := ih hrest
      refine ⟨after, ?_, hwrote.skip hvalue⟩
      rw [putBackOf, hvalue]
      exact hput
    | some value =>
      have hname : st.isConstant name = false :=
        hfree name List.mem_cons_self (by rw [Fields.has, hvalue]; rfl)
      have hstill : ∀ other ∈ rest, state.has other = true →
          (Stage.put Script.engine name value st).isConstant other = false :=
        fun other hmem hhas =>
          (Stage.isConstant_put name other value st).trans (hrest other hmem hhas)
      obtain ⟨after, hput, hwrote⟩ := ih hstill
      refine ⟨after, ?_, hwrote.cons hvalue hname⟩
      rw [Stage.put, Stage.write_free hname] at hput
      rw [putBackOf, hvalue]
      simp only [Stage.write_free hname]
      exact hput

/-- A constant stops putting back; what comes before it is written. -/
theorem putBackOf_constant {st : Stage Interpreter}
    (hfree : ∀ other ∈ before, state.has other = true → st.isConstant other = false)
    (hhas : state.has name = true) (hconstant : st.isConstant name = true) (rest : List String) :
    ∃ after, putBackOf Script.engine state (before ++ name :: rest) st =
        (.error (Interpreter.constant name), after) ∧ st.Wrote state before after := by
  obtain ⟨after, hput, hwrote⟩ := putBackOf_free hfree
  obtain ⟨value, hvalue⟩ := Option.isSome_iff_exists.mp hhas
  have hkept : after.isConstant name = true := by
    have hother : name ∈ before → state.find? name = none := by
      intro hmem
      rw [hfree name hmem hhas] at hconstant
      cases hconstant
    change (Scope.find? name after.engine.scope).any Binding.constant = true
    rwa [hwrote.kept name hother]
  refine ⟨after, ?_, hwrote⟩
  rw [putBackOf_append, hput]
  simp only [putBackOf, hvalue, Stage.write_constant hkept]

/-- What putting back the variables of a state does to a story. -/
structure PutsBack (state : Variables) (story : Story Interpreter) (result : Except Fault Unit)
    (after : Story Interpreter) : Prop where
  /-- It succeeds unless a declared variable that the state has is a constant. -/
  ok_iff : result = .ok () ↔
    ∀ name ∈ story.roster, state.has name = true → story.stage.isConstant name = false
  ok : result = .ok () → story.stage.Wrote state story.roster after.stage
  reads : result = .ok () → ∀ name ∈ story.roster, ∀ value, state.find? name = some value →
    Stage.reads Script.engine name after.stage = .ok value
  /-- It stops at the first such variable. -/
  failed : ∀ fault, result = .error fault → ∃ before name rest,
    story.roster = before ++ name :: rest ∧
      state.has name = true ∧ story.stage.isConstant name = true ∧
      (∀ other ∈ before, state.has other = true → story.stage.isConstant other = false) ∧
      fault = Interpreter.constant name ∧ fault.code = "SCRIPT_CONSTANT" ∧
      story.stage.Wrote state before after.stage
  only : after = { story with stage := after.stage }

theorem putBack_putsBack (state : Variables) (story : Story Interpreter) :
    PutsBack state story (story.putBack Script.engine state).1
      (story.putBack Script.engine state).2 := by
  cases hfirst : story.roster.find? fun name => state.has name && story.stage.isConstant name with
  | none =>
    have hfree : ∀ name ∈ story.roster, state.has name = true →
        story.stage.isConstant name = false := by
      intro name hmem hhas
      simpa [hhas] using List.find?_eq_none.mp hfirst name hmem
    obtain ⟨after, hput, hwrote⟩ := putBackOf_free hfree
    rw [putBack, onStage, hput]
    refine ⟨⟨fun _ => hfree, fun _ => rfl⟩, fun _ => hwrote,
      fun _ name hmem value hvalue => hwrote.reads hmem hvalue, fun fault hfault => ?_, rfl⟩
    cases hfault
  | some name =>
    obtain ⟨hname, before, rest, hroster, hbefore⟩ := List.find?_eq_some_iff_append.mp hfirst
    rw [Bool.and_eq_true] at hname
    have hfree : ∀ other ∈ before, state.has other = true →
        story.stage.isConstant other = false := by
      intro other hmem hhas
      simpa [hhas] using hbefore other hmem
    obtain ⟨after, hput, hwrote⟩ := putBackOf_constant hfree hname.1 hname.2 rest
    rw [← hroster] at hput
    rw [putBack, onStage, hput]
    have hstopped : (.error (Interpreter.constant name) : Except Fault Unit) ≠ .ok () := by simp
    refine ⟨⟨fun h => absurd h hstopped, fun hall => ?_⟩, fun h => absurd h hstopped,
      fun h => absurd h hstopped, fun fault hfault => ?_, rfl⟩
    · rw [hall name (hroster ▸ List.mem_append_right _ List.mem_cons_self) hname.1] at hname
      cases hname.2
    · cases hfault
      exact ⟨before, name, rest, hroster, hname.1, hname.2, hfree, rfl, rfl, hwrote⟩

/-! ## Snapshots -/

theorem mem_names_snapshot (story : Story Interpreter) (name : String) :
    name ∈ (story.snapshot Script.engine).names ↔ name ∈ story.roster := by
  rw [snapshot, Fields.mem_names_sorted, Fields.names, List.map_map]
  simp

/-- A snapshot that is put back changes no value that a snapshot holds. -/
theorem snapshot_putBack {story after : Story Interpreter}
    (hroster : after.roster = story.roster)
    (hwrote : story.stage.Wrote (story.snapshot Script.engine) story.roster after.stage) :
    after.snapshot Script.engine = story.snapshot Script.engine := by
  rw [snapshot, hroster]
  refine congrArg Fields.sorted (List.map_congr_left fun name hmem => ?_)
  have hvalue : (story.snapshot Script.engine).find? name =
      some (Stage.valueOf Script.engine name story.stage) := by
    rw [find?_snapshot, if_pos hmem]
  rw [Stage.valueOf_reads (hwrote.reads hmem hvalue)]

/-- What putting back does, and what a snapshot is good for. -/
structure RosterKept (story : Story Interpreter) : Prop where
  putBack : ∀ state : Variables, PutsBack state story (story.putBack Script.engine state).1
    (story.putBack Script.engine state).2
  /-- A snapshot has the declared variables, each once. -/
  names : ∀ name, name ∈ (story.snapshot Script.engine).names ↔ name ∈ story.roster
  ascending : (story.snapshot Script.engine).Ascending
  /-- Without constants among them it can be put back, and the next one is the same. -/
  again : (∀ name ∈ story.roster, story.stage.isConstant name = false) →
    (story.putBack Script.engine (story.snapshot Script.engine)).1 = .ok () ∧
      (story.putBack Script.engine (story.snapshot Script.engine)).2.snapshot Script.engine =
        story.snapshot Script.engine

/-- The declared variables are what a snapshot holds and what putting back writes, in every state
that a story can be in. -/
theorem roster_kept (story : Story Interpreter) : RosterKept story where
  putBack state := putBack_putsBack state story
  names := mem_names_snapshot story
  ascending := Fields.ascending_sorted _
  again hfree := by
    have hputs := putBack_putsBack (story.snapshot Script.engine) story
    have hok := hputs.ok_iff.mpr fun name hmem _ => hfree name hmem
    have hroster := congrArg Story.roster hputs.only
    exact ⟨hok, snapshot_putBack hroster (hputs.ok hok)⟩

/-- The wick has become a constant: the oil is put back, the glass is not. -/
example :
    let st : Stage Interpreter := ⟨{ scope := [⟨"wick", true, .int 1⟩], dice := 0 }, none⟩
    let state := [("glass", .int 3), ("oil", .int 5), ("wick", .int 2)]
    let result := putBackOf Script.engine state ["oil", "wick", "glass"] st
    result.1 = .error (Interpreter.constant "wick") ∧
      result.2.engine.scope = [⟨"oil", false, .int 5⟩, ⟨"wick", true, .int 1⟩] :=
  ⟨rfl, rfl⟩

end Story

end Gamebook
