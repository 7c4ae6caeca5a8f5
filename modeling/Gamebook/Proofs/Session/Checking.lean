import Gamebook.Proofs.Session.Keeping

/-!
# Checking what a save keeps

Whether a session is kept can be worked out for scripts that leave nothing behind but integers,
texts, and lists and records of such: no numbers, of which the reader may give back others, and
nothing that only scripts have.

* `Value.isPlain` : values that are storable, as they come back.
* `Interpreter.held?` : the value of a variable.
* `Session.isKept`, `Session.kept_of_isKept` : the check, and what it says.
-/

namespace Gamebook

open Script

/-! ## Values -/

namespace Value

mutual

/-- The value holds no numbers, its records are sorted, and it is nested no deeper than this. -/
def isPlain : Nat → Value → Bool
  | _, .nil | _, .bool _ | _, .int _ | _, .text _ => true
  | _, .number _ | 0, .list _ | 0, .record _ => false
  | depth + 1, .list items => arePlain depth items
  | depth + 1, .record fields => decide (Fields.Ascending fields) && havePlain depth fields

/-- The items are plain. -/
def arePlain : Nat → List Value → Bool
  | _, [] => true
  | depth, v :: rest => isPlain depth v && arePlain depth rest

/-- The fields are plain. -/
def havePlain : Nat → List (String × Value) → Bool
  | _, [] => true
  | depth, (_, v) :: rest => isPlain depth v && havePlain depth rest

end

mutual

/-- Plain values can be stored. -/
theorem storable_of_isPlain : ∀ {depth : Nat} {v : Value}, isPlain depth v = true →
    v.Storable depth ∧ v.finite = v
  | _, .nil, _ => ⟨.nil _, rfl⟩
  | _, .bool _, _ => ⟨.bool _ _, rfl⟩
  | _, .int _, _ => ⟨.int _ _, rfl⟩
  | _, .text _, _ => ⟨.text _ _, rfl⟩
  | depth + 1, .list items, h => by
    obtain ⟨hstorable, hfinite⟩ := storable_of_arePlain h
    exact ⟨.list hstorable, by rw [finite, hfinite]⟩
  | depth + 1, .record fields, h => by
    rw [isPlain, Bool.and_eq_true, decide_eq_true_iff] at h
    obtain ⟨hstorable, hfinite⟩ := storable_of_havePlain h.2
    exact ⟨.record h.1 hstorable, by rw [finite, hfinite]⟩

theorem storable_of_arePlain : ∀ {depth : Nat} {items : List Value}, arePlain depth items = true →
    (∀ v ∈ items, v.Storable depth) ∧ finiteItems items = items
  | _, [], _ => ⟨List.forall_mem_nil _, rfl⟩
  | depth, v :: rest, h => by
    rw [arePlain, Bool.and_eq_true] at h
    obtain ⟨hv, hfinite⟩ := storable_of_isPlain h.1
    obtain ⟨hrest, hfinite'⟩ := storable_of_arePlain h.2
    exact ⟨List.forall_mem_cons.mpr ⟨hv, hrest⟩, by rw [finiteItems, hfinite, hfinite']⟩

theorem storable_of_havePlain : ∀ {depth : Nat} {fields : List (String × Value)},
    havePlain depth fields = true →
      (∀ entry ∈ fields, entry.2.Storable depth) ∧ finiteFields fields = fields
  | _, [], _ => ⟨List.forall_mem_nil _, rfl⟩
  | depth, (name, v) :: rest, h => by
    rw [havePlain, Bool.and_eq_true] at h
    obtain ⟨hv, hfinite⟩ := storable_of_isPlain h.1
    obtain ⟨hrest, hfinite'⟩ := storable_of_havePlain h.2
    exact ⟨List.forall_mem_cons.mpr ⟨hv, hrest⟩, by rw [finiteFields, hfinite, hfinite']⟩

end

end Value

/-- Variables that are sorted and plain can be stored as they are. -/
theorem Variables.storable_of_isPlain {depth : Nat} {vars : Variables}
    (hsorted : Fields.Ascending vars) (h : Value.havePlain depth vars = true) :
    Variables.Storable depth vars ∧ Variables.finite vars = vars := by
  obtain ⟨hstorable, hfinite⟩ := Value.storable_of_havePlain h
  exact ⟨⟨hsorted, hstorable⟩, by rwa [Variables.finite, ← Value.finiteFields_eq_map]⟩

/-- All values in the save are plain. -/
def Save.isPlain (depth : Nat) (save : Save) : Bool :=
  decide (Fields.Ascending save.globals) && Value.havePlain depth save.globals
    && decide (Fields.Ascending save.sections)
    && save.sections.all (fun entry =>
      decide (Fields.Ascending entry.2.vars) && Value.havePlain depth entry.2.vars)

theorem Save.storable_of_isPlain {depth : Nat} {save : Save} (h : save.isPlain depth = true) :
    save.Storable depth ∧ save.finite = save := by
  simp only [isPlain, Bool.and_eq_true, decide_eq_true_iff, List.all_eq_true] at h
  obtain ⟨⟨⟨hglobals, hplain⟩, hsections⟩, hvars⟩ := h
  obtain ⟨hstorable, hfinite⟩ := Variables.storable_of_isPlain hglobals hplain
  have hprogress : ∀ entry ∈ save.sections, Variables.Storable depth entry.2.vars ∧
      Variables.finite entry.2.vars = entry.2.vars := fun entry hmem =>
    Variables.storable_of_isPlain (hvars entry hmem).1 (hvars entry hmem).2
  refine ⟨⟨hstorable, hsections, fun entry hmem => (hprogress entry hmem).1⟩, ?_⟩
  have hsame : save.sections.map (fun entry => (entry.1, entry.2.finite)) = save.sections := by
    refine (List.map_congr_left fun entry hmem => ?_).trans (List.map_id _)
    rw [Progress.finite, (hprogress entry hmem).2]
    rfl
  rw [finite, hfinite, hsame]

theorem Save.lasts_of_isPlain {save : Save} (h : save.isPlain (Json.depthLimit - 5) = true) :
    save.Lasts := by
  obtain ⟨hstorable, hfinite⟩ := storable_of_isPlain h
  exact ⟨⟨_, Nat.le_of_eq (by decide), hstorable⟩, hfinite⟩

/-! ## Variables -/

namespace Script

namespace Item

mutual

/-- The items are the same, and plain. -/
def same : Item → Item → Bool
  | .unit, .unit => true
  | .bool a, .bool b => a == b
  | .int a, .int b => a == b
  | .text a, .text b => a == b
  | .array items, .array items' => sameAll items items'
  | .record fields, .record fields' => sameFields fields fields'
  | _, _ => false

/-- The lists hold the same plain items. -/
def sameAll : List Item → List Item → Bool
  | [], [] => true
  | a :: rest, b :: rest' => same a b && sameAll rest rest'
  | _, _ => false

/-- The records hold the same plain items. -/
def sameFields : List (String × Item) → List (String × Item) → Bool
  | [], [] => true
  | (name, a) :: rest, (name', b) :: rest' => name == name' && same a b && sameFields rest rest'
  | _, _ => false

end

mutual

theorem eq_of_same : ∀ {a b : Item}, same a b = true → a = b := by
  intro a b h
  cases a <;> cases b <;> simp only [same, beq_iff_eq, Bool.false_eq_true] at h
  case unit.unit => rfl
  case array.array => exact congrArg _ (eq_of_sameAll h)
  case record.record => exact congrArg _ (eq_of_sameFields h)
  all_goals exact congrArg _ h

theorem eq_of_sameAll : ∀ {a b : List Item}, sameAll a b = true → a = b
  | [], [], _ => rfl
  | a :: rest, b :: rest', h => by
    rw [sameAll, Bool.and_eq_true] at h
    rw [eq_of_same h.1, eq_of_sameAll h.2]

theorem eq_of_sameFields : ∀ {a b : List (String × Item)}, sameFields a b = true → a = b
  | [], [], _ => rfl
  | (name, a) :: rest, (name', b) :: rest', h => by
    simp only [sameFields, Bool.and_eq_true, beq_iff_eq] at h
    rw [h.1.1, eq_of_same h.1.2, eq_of_sameFields h.2]

end

end Item

namespace Interpreter

/-- The plain value of a variable that is no constant. -/
def held? (name : String) (it : Interpreter) : Option Value :=
  match Scope.find? name it.scope with
  | some ⟨_, false, item⟩ =>
    match item.toValue with
    | .ok value => if Item.same (.ofValue value) item then some value else none
    | .error _ => none
  | _ => none

theorem holds_of_held? {name : String} {value : Value} {it : Interpreter}
    (h : it.held? name = some value) : it.Holds name value := by
  unfold held? at h
  split at h
  · next bound item hfound =>
    obtain rfl : bound = name := Scope.name_of_find? hfound
    split at h
    · next found _ =>
      split at h
      · next hsame =>
        cases h
        rw [Holds, hfound, Item.eq_of_same hsame]
      · cases h
    · cases h
  · cases h

/-- Two interpreters show the same plain value under a name, or nothing. -/
def agreeOn (name : String) (a b : Interpreter) : Bool :=
  match Scope.find? name a.scope, Scope.find? name b.scope with
  | none, none => true
  | some b, some b' => b.constant == b'.constant && Item.same b.value b'.value
  | _, _ => false

theorem find?_of_agreeOn {name : String} {a b : Interpreter} (h : agreeOn name a b = true) :
    Scope.find? name a.scope = Scope.find? name b.scope := by
  unfold agreeOn at h
  split at h
  · next ha hb => rw [ha, hb]
  · next found found' ha hb =>
    have hname := (Scope.name_of_find? ha).trans (Scope.name_of_find? hb).symm
    obtain ⟨hconstant, hvalue⟩ := Bool.and_eq_true_iff.mp h
    obtain ⟨name₁, constant₁, value₁⟩ := found
    obtain ⟨name₂, constant₂, value₂⟩ := found'
    dsimp only at hname hconstant hvalue
    rw [ha, hb, hname, eq_of_beq hconstant, Item.eq_of_same hvalue]
  · cases h

end Interpreter

end Script

/-! ## Sessions -/

namespace Session

/-- The names that are made anew when the session goes on from its save. -/
def broughtBack (session : Session Interpreter) : List String :=
  [Stage.scratchName, Stage.aliasName] ++ session.story.roster ++
    (session.story.sections.names.filter fun id =>
      (session.story.section? id).any fun s => s.visits != 0).map sectionNamespace

theorem mem_broughtBack (session : Session Interpreter) (name : String) :
    name ∈ session.broughtBack ↔ session.BringsBack name := by
  have hsections : name ∈ (session.story.sections.names.filter fun id =>
      (session.story.section? id).any fun s => s.visits != 0).map sectionNamespace ↔
        ∃ id s, session.story.section? id = some s ∧ s.visits ≠ 0 ∧ name = sectionNamespace id := by
    constructor
    · intro h
      obtain ⟨id, hid, rfl⟩ := List.mem_map.mp h
      obtain ⟨s, hs, hvisited⟩ := (Option.any_eq_true ..).mp (List.mem_filter.mp hid).2
      exact ⟨id, s, hs, bne_iff_ne.mp hvisited, rfl⟩
    · rintro ⟨id, s, hs, hvisited, rfl⟩
      have hid : id ∈ session.story.sections.names :=
        List.mem_map_of_mem (Fields.mem_of_find? hs)
      refine List.mem_map_of_mem (List.mem_filter.mpr ⟨hid, ?_⟩)
      rw [hs]
      exact bne_iff_ne.mpr hvisited
  rw [broughtBack, List.mem_append, List.mem_append, hsections, BringsBack]
  simp only [List.mem_cons, List.not_mem_nil, or_false]
  constructor
  · rintro ((hreserved | hroster) | hs)
    · exact .inr (hreserved.imp_right .inl)
    · exact .inr (.inr (.inr hroster))
    · exact .inl hs
  · rintro (hs | hscratch | halias | hroster)
    · exact .inr hs
    · exact .inl (.inl (.inl hscratch))
    · exact .inl (.inl (.inr halias))
    · exact .inl (.inr hroster)

/-- The variables of a record that a variable holds. -/
def heldFields? (name : String) (it : Interpreter) : Option Variables :=
  match it.held? name with
  | some (.record vars) => some vars
  | _ => none

theorem holds_of_heldFields? {name : String} {vars : Variables} {it : Interpreter}
    (h : heldFields? name it = some vars) : it.Holds name (.record vars) := by
  unfold heldFields? at h
  split at h
  · next found hheld =>
    cases h
    exact Interpreter.holds_of_held? hheld
  · cases h

/-- The alias and the namespace of the current section hold the same, with the visit count. -/
def isInStep (session : Session Interpreter) : Bool :=
  let it := session.story.stage.engine
  (session.story.section? session.current).any fun s =>
    (heldFields? Stage.aliasName it).any fun vars =>
      (heldFields? (sectionNamespace session.current) it).any fun vars' =>
        Item.sameFields (Item.ofFields vars) (Item.ofFields vars') &&
          (Fields.find? Stage.visitsName vars).any fun
            | .int n => n == Int64.ofNat s.visits.toNat
            | _ => false

theorem current_of_isInStep {session : Session Interpreter} (h : session.isInStep = true) :
    ∃ s vars, session.story.section? session.current = some s ∧
      session.story.stage.engine.Holds Stage.aliasName (.record vars) ∧
      session.story.stage.engine.Holds (sectionNamespace session.current) (.record vars) ∧
      Fields.find? Stage.visitsName vars = some (.int (Int64.ofNat s.visits.toNat)) := by
  obtain ⟨s, hs, h⟩ := (Option.any_eq_true ..).mp h
  obtain ⟨vars, halias, h⟩ := (Option.any_eq_true ..).mp h
  obtain ⟨vars', howned, h⟩ := (Option.any_eq_true ..).mp h
  obtain ⟨hsame, h⟩ := Bool.and_eq_true_iff.mp h
  obtain ⟨visits, hvisits, h⟩ := (Option.any_eq_true ..).mp h
  refine ⟨s, vars, hs, holds_of_heldFields? halias, ?_, ?_⟩
  · have hholds := holds_of_heldFields? howned
    rwa [Interpreter.Holds, Item.ofValue, ← Item.eq_of_sameFields hsame, ← Item.ofValue] at hholds
  · split at h
    · rw [hvisits, eq_of_beq h]
    · cases h

/-- The session is kept: all that its scripts have left behind is plain and in the save, or has none
of the names. -/
def isKept (names : List String) (fresh : Interpreter) (session : Session Interpreter) : Bool :=
  let it := session.story.stage.engine
  (session.save Script.engine).isPlain (Json.depthLimit - 5)
    && session.story.roster.all (fun name => (it.held? name).isSome)
    && !it.isConstant Stage.scratchName
    && (!session.story.roster.contains Stage.scratchName
      || (heldFields? Stage.scratchName it).any List.isEmpty)
    && session.isInStep
    && session.story.sections.all (fun entry => entry.2.visits == 0
      || (heldFields? (sectionNamespace entry.1) it).any (!·.isEmpty))
    && session.broughtBack.all (fun name => !fresh.isConstant name)
    && names.all (fun name => session.broughtBack.contains name || it.agreeOn name fresh)
    && it.functions.isEmpty && fresh.functions.isEmpty

/-- A session that passes the check is kept. -/
theorem kept_of_isKept {names : List String} {fresh : Interpreter} {session : Session Interpreter}
    (h : session.isKept names fresh = true) : session.Kept (.only names) fresh := by
  simp only [isKept, Bool.and_eq_true, List.all_eq_true, Bool.or_eq_true, Bool.not_eq_true',
    List.isEmpty_iff] at h
  obtain ⟨⟨⟨⟨⟨⟨⟨⟨⟨hplain, hroster⟩, hscratch⟩, hreset⟩, hstep⟩, hprivates⟩, hfree⟩, hothers⟩,
    hfunctions⟩, hfresh⟩ := h
  refine
    { lasts := Save.lasts_of_isPlain hplain
      declared := fun name hname => ?_
      scratch := ⟨hscratch, fun hmem => ?_⟩
      current := current_of_isInStep hstep
      privates := fun id s hs hvisited => ?_
      free := fun name hback => hfree name ((mem_broughtBack session name).mpr hback)
      others := fun name hname hback => ?_
      functions := hfunctions.trans hfresh.symm }
  · obtain ⟨value, hvalue⟩ := Option.isSome_iff_exists.mp (hroster name hname)
    exact ⟨value, Interpreter.holds_of_held? hvalue⟩
  · rcases hreset with hreset | hreset
    · rw [List.contains_iff_mem.mpr hmem] at hreset
      cases hreset
    · obtain ⟨vars, hvars, hempty⟩ := (Option.any_eq_true ..).mp hreset
      obtain rfl := List.isEmpty_iff.mp hempty
      exact holds_of_heldFields? hvars
  · rcases hprivates _ (Fields.mem_of_find? hs) with hzero | hheld
    · exact absurd (eq_of_beq hzero) hvisited
    · obtain ⟨vars, hvars, hfull⟩ := (Option.any_eq_true ..).mp hheld
      exact ⟨vars, by simpa using hfull, holds_of_heldFields? hvars⟩
  · rcases hothers name (List.contains_iff_mem.mp hname) with hmem | hagree
    · exact absurd ((mem_broughtBack session name).mp (List.contains_iff_mem.mp hmem)) hback
    · exact Interpreter.find?_of_agreeOn hagree

end Session

end Gamebook
