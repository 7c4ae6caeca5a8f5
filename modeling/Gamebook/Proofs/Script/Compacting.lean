import Gamebook.Proofs.Script.Resting

/-!
# Compaction

After statements a scope keeps one binding for each name, the newest. Nothing that a look-up finds
changes, and the bindings that stay are in the order in which their names were last bound.

* `Scope.Compacts` : what a compaction keeps.
* `Scope.compacts_iff` : this is so of one scope only.
* `Scope.compaction` : a compaction keeps it, leaves alone a scope without repeated names, and has
  nothing left to do when it is repeated.
-/

namespace Gamebook

namespace Script

namespace Scope

variable {scope other compacted : Scope} {name : String}

/-! ## Ages -/

/-- How many bindings are newer than the newest one of a name; all, if the name is not bound. -/
def age (name : String) (scope : Scope) : Nat := (scope.map Binding.name).idxOf name

theorem age_self (b : Binding) (older : Scope) : age b.name (b :: older) = 0 :=
  List.idxOf_cons_self

theorem age_cons {b : Binding} (h : b.name ≠ name) (older : Scope) :
    age name (b :: older) = age name older + 1 := by
  rw [age, List.map_cons, List.idxOf_cons, beq_false_of_ne h]
  rfl

/-- Bindings stand in the order in which their names were last bound in a scope. -/
def Ordered (scope kept : Scope) : Prop :=
  kept.Pairwise fun newer older => age newer.name scope < age older.name scope

/-- The ages of other names all grow by one. -/
theorem Ordered.skip {b : Binding} {older kept : Scope} (h : Ordered older kept)
    (hother : ∀ c ∈ kept, b.name ≠ c.name) : Ordered (b :: older) kept := by
  refine h.imp_of_mem fun hnewer hlater hlt => ?_
  rw [age_cons (hother _ hnewer), age_cons (hother _ hlater)]
  omega

theorem Ordered.keep {b : Binding} {older kept : Scope} (h : Ordered older kept)
    (hother : ∀ c ∈ kept, b.name ≠ c.name) : Ordered (b :: older) (b :: kept) := by
  refine List.pairwise_cons.mpr ⟨fun c hc => ?_, h.skip hother⟩
  rw [age_self, age_cons (hother c hc)]
  omega

/-- The scope has the newest binding of each name of another, in the order in which the names were
last bound there. -/
structure Compacts (scope compacted : Scope) : Prop where
  single : compacted.Single
  /-- The newest binding of every name keeps its value, and it stays a constant or a variable. -/
  find? : ∀ name, find? name compacted = find? name scope
  /-- No name appears or disappears. -/
  bound : ∀ name, name ∈ compacted.map Binding.name ↔ name ∈ scope.map Binding.name
  ordered : Ordered scope compacted

/-! ## Compaction keeps it -/

theorem mem_names_iff : name ∈ scope.map Binding.name ↔ ∃ b, Scope.find? name scope = some b := by
  rw [← find?_isSome, Option.isSome_iff_exists]

/-- Names that are bound the same are bound in both. -/
theorem bound_of_find? (h : ∀ name, Scope.find? name compacted = Scope.find? name scope)
    (name : String) : name ∈ compacted.map Binding.name ↔ name ∈ scope.map Binding.name := by
  rw [mem_names_iff, mem_names_iff, h]

/-- What stays is in the order of the newest bindings, because its names have not been seen. -/
theorem ordered_compactFrom (seen : List String) (scope : Scope) :
    Ordered scope (compactFrom seen scope) := by
  induction scope generalizing seen with
  | nil => exact .nil
  | cons b older ih =>
    have hother {names : List String} (hb : b.name ∈ names) (c : Binding)
        (hc : c ∈ compactFrom names older) : b.name ≠ c.name :=
      fun heq => (single_compactFrom names older).2 c hc (heq ▸ hb)
    rw [compactFrom]
    split
    · next hseen => exact (ih seen).skip (hother (List.contains_iff_mem.mp hseen))
    · exact (ih _).keep (hother List.mem_cons_self)

theorem compacts_compact (scope : Scope) : Compacts scope scope.compact where
  single := single_compact scope
  find? name := find?_compact name scope
  bound := bound_of_find? fun name => find?_compact name scope
  ordered := ordered_compactFrom [] scope

/-! ## Only one scope has it -/

/-- Without repeated names a scope is told by its names and its look-ups. -/
theorem Single.map_some (h : scope.Single) :
    scope.map some = (scope.map Binding.name).map fun name => Scope.find? name scope := by
  induction scope with
  | nil => rfl
  | cons b older ih =>
    obtain ⟨hfresh, hrest⟩ := List.nodup_cons.mp h
    have holder : (older.map Binding.name).map (fun name => Scope.find? name (b :: older)) =
        (older.map Binding.name).map fun name => Scope.find? name older := by
      refine List.map_congr_left fun name hname => ?_
      have hne : b.name ≠ name := fun heq => hfresh (heq ▸ hname)
      rw [Scope.find?, if_neg hne]
    rw [List.map_cons, List.map_cons, List.map_cons, Scope.find?, if_pos rfl, holder, ← ih hrest]

/-- Compactions of one scope have the same names in the same order. -/
theorem Compacts.map_name_eq (h : Compacts scope compacted) (h' : Compacts scope other) :
    compacted.map Binding.name = other.map Binding.name := by
  have hordered {kept : Scope} (hkept : Compacts scope kept) :
      (kept.map Binding.name).Pairwise fun newer older => age newer scope < age older scope :=
    List.pairwise_map.mpr hkept.ordered
  have hperm : (compacted.map Binding.name).Perm (other.map Binding.name) :=
    (List.perm_ext_iff_of_nodup h.single h'.single).mpr
      fun name => (h.bound name).trans (h'.bound name).symm
  exact hperm.eq_of_pairwise (fun a b _ _ hab hba => absurd hab (Nat.lt_asymm hba))
    (hordered h) (hordered h')

/-- The compaction of a scope is the only one. -/
theorem compacts_iff : Compacts scope compacted ↔ compacted = scope.compact := by
  constructor
  · intro h
    have hcompact := compacts_compact scope
    have hfound : (fun name => Scope.find? name compacted) =
        fun name => Scope.find? name scope.compact :=
      funext fun name => (h.find? name).trans (hcompact.find? name).symm
    refine (List.map_inj_right fun _ _ => Option.some.inj).mp ?_
    rw [h.single.map_some, hfound, h.map_name_eq hcompact, ← hcompact.single.map_some]
  · rintro rfl
    exact compacts_compact scope

/-! ## Scopes without repeated names -/

theorem Single.ordered (h : scope.Single) : Ordered scope scope := by
  induction scope with
  | nil => exact .nil
  | cons b older ih =>
    obtain ⟨hfresh, hrest⟩ := List.nodup_cons.mp h
    exact (ih hrest).keep fun c hc heq => hfresh (heq ▸ List.mem_map_of_mem hc)

/-- A scope is its own compaction exactly if no name is bound twice. -/
theorem compact_eq_self_iff : scope.compact = scope ↔ scope.Single :=
  ⟨fun h => h ▸ single_compact scope,
    fun h => (compacts_iff.mp ⟨h, fun _ => rfl, fun _ => Iff.rfl, h.ordered⟩).symm⟩

/-- A compaction keeps the newest binding of every name, once, and the order of these bindings; it
changes a scope exactly if a name is bound twice, and so a second one changes nothing. -/
theorem compaction (scope : Scope) :
    Compacts scope scope.compact ∧ (scope.compact = scope ↔ scope.Single) ∧
      scope.compact.compact = scope.compact :=
  ⟨compacts_compact scope, compact_eq_self_iff, compact_eq_self_iff.mpr (single_compact scope)⟩

/-- Of variables that are bound again and again the last bindings stay, the newest first. -/
example : compact [⟨"first", false, .text "b"⟩, ⟨"seen", true, .int 2⟩, ⟨"seen", false, .int 1⟩,
    ⟨"first", false, .text "a"⟩] =
      [⟨"first", false, .text "b"⟩, ⟨"seen", true, .int 2⟩] := rfl

end Scope

end Script

end Gamebook
