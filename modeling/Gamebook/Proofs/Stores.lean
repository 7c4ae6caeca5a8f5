import Gamebook.Proofs.Stage

/-!
# Engines that store variables

An engine `Recalls` variables if a variable that was written reads back as its value, and if writing
changes no other variable. It `Stores` them if, besides, a write that fails changes nothing and the
dice are apart from the variables. Nothing is said about what scripts do. What the stage writes then
reads back, and what it binds or clears touches no other variable.

* `Engine.Recalls`, `Engine.Stores` : the laws.
* `Stage.reads_bindSection` : binding a section changes the visit count in its namespace, and the
  alias.
* `Section.rebind_eq` : what binding a section writes.
-/

namespace Gamebook

variable {σ : Type} {E : Engine σ}

/-- What was written reads back, and writing changes no other variable. -/
structure Engine.Recalls (E : Engine σ) : Prop where
  read_written {name : String} {value : Value} {before after : σ}
    (h : E.write name value before = (.ok (), after)) : E.read name after = .ok value
  read_other {name other : String} (h : other ≠ name) (value : Value) (state : σ) :
    E.read other (E.write name value state).2 = E.read other state

/-- Variables read back, and the dice are apart. -/
structure Engine.Stores (E : Engine σ) : Prop where
  read_written {name : String} {value : Value} {before after : σ}
    (h : E.write name value before = (.ok (), after)) : E.read name after = .ok value
  read_unwritten {name : String} {value : Value} {before after : σ} {fault : Fault}
    (h : E.write name value before = (.error fault, after)) (other : String) :
    E.read other after = E.read other before
  read_other {name other : String} (h : other ≠ name) (value : Value) (state : σ) :
    E.read other (E.write name value state).2 = E.read other state
  read_setDice (name : String) (dice : UInt32) (state : σ) :
    E.read name (E.setDice dice state) = E.read name state
  dice?_setDice (dice : UInt32) (state : σ) : E.dice? (E.setDice dice state) = some dice

theorem Engine.Stores.recalls (hE : E.Stores) : E.Recalls := ⟨hE.read_written, hE.read_other⟩

/-! ## Namespaces -/

/-- Namespaces have names that no reserved variable has. -/
private theorem namespace_ne {name : String} (h : name.toList.head? ≠ some '_')
    (sectionId : String) : sectionNamespace sectionId ≠ name := by
  rintro rfl
  refine h ?_
  rw [sectionNamespace, String.toList_append]
  rfl

theorem sectionNamespace_ne_scratch (sectionId : String) :
    sectionNamespace sectionId ≠ Stage.scratchName := namespace_ne (by decide) sectionId

theorem sectionNamespace_ne_alias (sectionId : String) :
    sectionNamespace sectionId ≠ Stage.aliasName := namespace_ne (by decide) sectionId

theorem sectionNamespace_ne_redirect (sectionId : String) :
    sectionNamespace sectionId ≠ Stage.redirectName := namespace_ne (by decide) sectionId

namespace Stage

variable {st after : Stage σ} {name : String} {value : Value}

/-- What a variable reads as. -/
def reads (E : Engine σ) (name : String) (st : Stage σ) : Except Fault Value :=
  E.read name st.engine

theorem valueOf_reads (h : reads E name st = .ok value) : valueOf E name st = value := by
  rw [valueOf, show E.read name st.engine = .ok value from h]

theorem privates_reads {sectionId : String} {fields : Variables}
    (h : reads E (sectionNamespace sectionId) st = .ok (.record fields)) :
    privates E sectionId st = fields := by
  rw [privates, valueOf_reads h]

theorem privates_empty {sectionId : String}
    (h : reads E (sectionNamespace sectionId) st = .ok value)
    (hempty : ∀ field rest, value ≠ .record (field :: rest)) : privates E sectionId st = [] := by
  rw [privates, valueOf_reads h]
  split
  · next fields =>
    cases fields with
    | nil => rfl
    | cons field rest => exact absurd rfl (hempty field rest)
  · rfl

section Recalls

variable (hE : E.Recalls)
include hE

theorem reads_write (h : write E name value st = (.ok (), after)) :
    reads E name after = .ok value := by
  obtain ⟨hok, rfl⟩ := Prod.mk.inj h
  exact hE.read_written (Prod.ext hok rfl)

theorem reads_write_of_ne {other : String} (hne : other ≠ name) (value : Value) (st : Stage σ) :
    reads E other (write E name value st).2 = reads E other st :=
  hE.read_other hne value st.engine

theorem reads_put_of_ne {other : String} (hne : other ≠ name) (value : Value) (st : Stage σ) :
    reads E other (put E name value st) = reads E other st := reads_write_of_ne hE hne value st

/-- Binding a section changes no other namespace. -/
theorem reads_bindSection_of_ne (sectionId : String) (visits : UInt32)
    (hne : name ≠ sectionNamespace sectionId) (halias : name ≠ aliasName) (st : Stage σ) :
    reads E name (bindSection E sectionId visits st) = reads E name st :=
  (reads_put_of_ne hE halias _ _).trans (reads_put_of_ne hE hne _ _)

theorem privates_resetScratch (sectionId : String) (st : Stage σ) :
    privates E sectionId (resetScratch E st) = privates E sectionId st := by
  have hread : E.read (sectionNamespace sectionId) (resetScratch E st).engine =
      E.read (sectionNamespace sectionId) st.engine :=
    reads_put_of_ne hE (sectionNamespace_ne_scratch sectionId) (.record []) st
  rw [privates, privates, valueOf, valueOf, hread]

end Recalls

section Stores

variable (hE : E.Stores)
include hE

/-- A variable that is written reads as its value, or as before. -/
theorem reads_put (name : String) (value : Value) (st : Stage σ) :
    reads E name (put E name value st) = .ok value ∨
      reads E name (put E name value st) = reads E name st := by
  obtain ⟨result, after, h⟩ : ∃ result after, write E name value st = (result, after) :=
    ⟨_, _, rfl⟩
  rw [put, h]
  cases result with
  | ok u => exact .inl (reads_write hE.recalls h)
  | error fault =>
    obtain ⟨hfault, rfl⟩ := Prod.mk.inj h
    exact .inr (hE.read_unwritten (Prod.ext hfault rfl) name)

/-- Binding a section notes its visits in its namespace, if the engine lets it. -/
theorem reads_bindSection (sectionId : String) (visits : UInt32) {fields : Variables}
    (h : reads E (sectionNamespace sectionId) st = .ok (.record fields)) :
    let noted := Value.record (fields.insert visitsName (.int (Int64.ofNat visits.toNat)))
    reads E (sectionNamespace sectionId) (bindSection E sectionId visits st) = .ok noted ∨
      reads E (sectionNamespace sectionId) (bindSection E sectionId visits st) =
        .ok (.record fields) := by
  intro noted
  have halias := reads_put_of_ne hE.recalls (sectionNamespace_ne_alias sectionId) noted
    (put E (sectionNamespace sectionId) noted st)
  have hput := reads_put hE (sectionNamespace sectionId) noted st
  rw [h, ← halias] at hput
  simp only [bindSection, privates_reads h]
  exact hput

end Stores

end Stage

namespace Section

/-- The private variables of a section with its visit count. -/
def noted (E : Engine σ) (s : Section) (st : Stage σ) : Variables :=
  (Stage.privates E s.id st).insert Stage.visitsName (.int (Int64.ofNat s.visits.toNat))

/-- Binding a section empties the scratch record and puts the private variables with the visit count
into the namespace and under the alias. -/
theorem rebind_eq (hE : E.Recalls) (s : Section) (st : Stage σ) :
    s.rebind E st =
      { Stage.put E Stage.aliasName (.record (s.noted E st))
          (Stage.put E (sectionNamespace s.id) (.record (s.noted E st))
            (Stage.resetScratch E st)) with
        bound := some s.id } := by
  rw [rebind, Stage.bindSection, Stage.privates_resetScratch hE]
  rfl

end Section

end Gamebook
