import Gamebook.Proofs.Saved
import Gamebook.Proofs.Script.Constants
import Gamebook.Proofs.Script.Registered
import Gamebook.Proofs.Session.Entering
import Gamebook.Proofs.Session.Namespaces

/-!
# What a save keeps

A save keeps the declared variables, the private variables of the sections that were entered, and
the dice; the alias of the current section and the scratch record are made anew from it. Whatever
else scripts have left behind is gone when the game goes on from a save. If that is nothing that a
script reads, going on gives a twin of the session: it shows, does and saves the same.

* `Save.Lasts` : a save is read from its text as it is.
* `Session.Kept` : what scripts have left behind is in the save, or no script reads it.
* `Session.Kept.resume` : a session that is kept goes on as a twin of itself.
-/

namespace Gamebook

open Script

namespace Script

namespace Interpreter

/-- A variable, and no constant, has a value. -/
def Holds (name : String) (value : Value) (it : Interpreter) : Prop :=
  Scope.find? name it.scope = some ⟨name, false, .ofValue value⟩

variable {name : String} {value : Value}

theorem Holds.read {it : Interpreter} (h : it.Holds name value) : it.read name = .ok value := by
  rw [Holds] at h
  rw [Interpreter.read, h]
  exact valueOf_ofValue value

/-- The interpreter with the scratch record reset. -/
def cleared (it : Interpreter) : Interpreter := (it.write Stage.scratchName (.record [])).2

theorem holds_cleared {it : Interpreter} (h : it.isConstant Stage.scratchName = false) :
    it.cleared.Holds Stage.scratchName (.record []) := by
  rw [cleared, write_free h, Holds]
  dsimp only
  rw [Scope.find?_put_free h, if_pos rfl]

theorem find?_cleared (it : Interpreter) (hne : name ≠ Stage.scratchName) :
    Scope.find? name it.cleared.scope = Scope.find? name it.scope := by
  unfold cleared Interpreter.write
  split
  · rfl
  · exact Scope.find?_put_of_ne (Ne.symm hne) _ _

theorem Holds.cleared {it : Interpreter} (h : it.Holds name value)
    (hne : name ≠ Stage.scratchName) : it.cleared.Holds name value :=
  (find?_cleared it hne).trans h

/-- On the way from one interpreter to another: names that are done show what they show in the last,
others what they show in the first. -/
structure Between (done : String → Prop) (first last it : Interpreter) : Prop where
  same : ∀ name, done name → Scope.find? name it.scope = Scope.find? name last.scope
  rest : ∀ name, ¬ done name → Scope.find? name it.scope = Scope.find? name first.scope
  functions : it.functions = first.functions
  procedures : it.procedures = first.procedures
  helpers : it.helpers = first.helpers

variable {done : String → Prop} {first last it : Interpreter}

theorem Between.start (first last : Interpreter) : Between (fun _ => False) first last first :=
  ⟨fun _ => False.elim, fun _ _ => rfl, rfl, rfl, rfl⟩

/-- A value that the last interpreter holds can be written on the way to it. -/
theorem Between.write (h : Between done first last it) (hvalue : last.Holds name value)
    (hfree : first.isConstant name = false) :
    ∃ after, it.write name value = (.ok (), after) ∧
      Between (fun other => done other ∨ other = name) first last after := by
  have hvariable : it.isConstant name = false := by
    by_cases hdone : done name
    · rw [isConstant, h.same name hdone, hvalue]
      rfl
    · rw [isConstant, h.rest name hdone]
      exact hfree
  refine ⟨_, write_free hvariable value, ?_, ?_, h.functions, h.procedures, h.helpers⟩
  · intro other hother
    dsimp only
    rw [Scope.find?_put_free hvariable]
    split
    · next heq =>
      rw [← heq, hvalue]
    · next hne => exact h.same other (hother.resolve_right (Ne.symm hne))
  · intro other hother
    obtain ⟨hdone, hne⟩ := not_or.mp hother
    dsimp only
    rw [Scope.find?_put_free hvariable, if_neg (Ne.symm hne)]
    exact h.rest other hdone

theorem Between.congr (h : Between done first last it) {done' : String → Prop}
    (hdone : ∀ name, done name ↔ done' name) : Between done' first last it := by
  obtain rfl : done = done' := funext fun name => propext (hdone name)
  exact h

end Interpreter

end Script

/-! ## The way back -/

section Back

open Interpreter (Between)

variable {done : String → Prop} {first last : Interpreter} {name : String} {value : Value}

namespace Stage

theorem write_between (st : Stage Interpreter) (h : Between done first last st.engine)
    (hvalue : last.Holds name value) (hfree : first.isConstant name = false) :
    ∃ it, write Script.engine name value st = (.ok (), { st with engine := it }) ∧
      Between (fun other => done other ∨ other = name) first last it := by
  obtain ⟨it, hwrite, hbetween⟩ := h.write hvalue hfree
  have hengine : Script.engine.write name value st.engine = (.ok (), it) := hwrite
  exact ⟨it, by rw [write, hengine], hbetween⟩

theorem put_between (st : Stage Interpreter) (h : Between done first last st.engine)
    (hvalue : last.Holds name value) (hfree : first.isConstant name = false) :
    ∃ it, put Script.engine name value st = { st with engine := it } ∧
      Between (fun other => done other ∨ other = name) first last it := by
  obtain ⟨it, hwrite, hbetween⟩ := write_between st h hvalue hfree
  exact ⟨it, congrArg Prod.snd hwrite, hbetween⟩

end Stage

/-- Sections whose private variables the last interpreter holds are put back. -/
theorem Story.restore_between {story : Story Interpreter} {progress : Fields Progress}
    (h : Between done first last story.stage.engine)
    (hknown : ∀ entry ∈ progress, story.hasSection entry.1 = true)
    (hvars : ∀ entry ∈ progress, entry.2.vars ≠ [] ∧
      last.Holds (sectionNamespace entry.1) (.record entry.2.vars) ∧
      first.isConstant (sectionNamespace entry.1) = false) :
    ∃ kept, restore Script.engine progress story = (.ok (), kept) ∧
      Between (fun other => done other ∨ ∃ id ∈ progress.names, other = sectionNamespace id)
        first last kept.stage.engine := by
  induction progress generalizing done story with
  | nil => exact ⟨story, rfl, h.congr fun name => by simp⟩
  | cons entry rest ih =>
    obtain ⟨id, progress⟩ := entry
    obtain ⟨hfull, hholds, hfree⟩ := hvars _ List.mem_cons_self
    obtain ⟨it, hwrite, hbetween⟩ := Stage.write_between _ h hholds hfree
    have hput : putPrivates Script.engine id progress.vars story.stage =
        (.ok (), { story.stage with engine := it }) := by
      rw [putPrivates, if_neg (by simpa using hfull)]
      exact hwrite
    rw [restore_known (hknown _ List.mem_cons_self) hput]
    have hsections : ∀ other, Story.hasSection other { story with
        sections := story.sections.modify id (Section.withProgress progress)
        stage := { story.stage with engine := it } } = story.hasSection other :=
      fun other => Fields.has_modify id other _ story.sections
    obtain ⟨kept, hkept, hlast⟩ := ih hbetween
      (fun entry hmem => (hsections entry.1).trans (hknown entry (List.mem_cons_of_mem _ hmem)))
      (fun entry hmem => hvars entry (List.mem_cons_of_mem _ hmem))
    refine ⟨kept, hkept, hlast.congr fun name => ?_⟩
    simp [or_assoc]

/-- Variables that the last interpreter holds are put back. -/
theorem Story.putBackOf_between {state : Variables} {names : List String}
    (st : Stage Interpreter) (h : Between done first last st.engine)
    (hvars : ∀ name ∈ names, first.isConstant name = false ∧
      ∃ value, state.find? name = some value ∧ last.Holds name value) :
    ∃ it, putBackOf Script.engine state names st = (.ok (), { st with engine := it }) ∧
      Between (fun other => done other ∨ other ∈ names) first last it := by
  induction names generalizing done st with
  | nil => exact ⟨st.engine, rfl, h.congr fun name => by simp⟩
  | cons name rest ih =>
    obtain ⟨hfree, value, hfind, hholds⟩ := hvars name List.mem_cons_self
    obtain ⟨it, hwrite, hbetween⟩ := Stage.write_between _ h hholds hfree
    obtain ⟨it', hrest, hlast⟩ := ih { st with engine := it } hbetween fun name hmem =>
      hvars name (List.mem_cons_of_mem _ hmem)
    refine ⟨it', ?_, hlast.congr fun name => by simp [or_assoc]⟩
    rw [putBackOf]
    simp only [hfind, hwrite]
    exact hrest

/-- A section is bound to private variables that the last interpreter holds, with the visit count
among them. -/
theorem Section.rebind_between {s : Section} {vars : Variables} (st : Stage Interpreter)
    (h : Between done first last st.engine) (hdone : done (sectionNamespace s.id))
    (hscratch : last.Holds Stage.scratchName (.record []))
    (halias : last.Holds Stage.aliasName (.record vars))
    (howned : last.Holds (sectionNamespace s.id) (.record vars))
    (hvisits : vars.insert Stage.visitsName (.int (Int64.ofNat s.visits.toNat)) = vars)
    (hfree : ∀ name ∈ [Stage.scratchName, Stage.aliasName, sectionNamespace s.id],
      first.isConstant name = false) :
    ∃ it, s.rebind Script.engine st = { engine := it, bound := some s.id } ∧
      Between (fun other => done other ∨ other = Stage.scratchName ∨ other = Stage.aliasName)
        first last it := by
  obtain ⟨reset, hreset, h₁⟩ := Stage.put_between _ h hscratch (hfree _ (by simp))
  have hprivates : Stage.privates Script.engine s.id { st with engine := reset } = vars := by
    refine Stage.privates_reads ?_
    have hread : Interpreter.read (sectionNamespace s.id) reset = .ok (.record vars) := by
      rw [Interpreter.read, h₁.same _ (.inl hdone)]
      exact howned.read
    exact hread
  obtain ⟨opened, hopened, h₂⟩ := Stage.put_between { st with engine := reset } h₁ howned
    (hfree _ (by simp))
  obtain ⟨bound, hbound, h₃⟩ := Stage.put_between { st with engine := opened } h₂ halias
    (hfree _ (by simp))
  refine ⟨bound, ?_, h₃.congr fun name => ?_⟩
  · rw [rebind, Stage.resetScratch, hreset, Stage.bindSection, hprivates, hvisits]
    dsimp only at hopened hbound ⊢
    rw [hopened, hbound]
  · constructor
    · rintro (((hd | rfl) | rfl) | rfl)
      · exact .inl hd
      · exact .inr (.inl rfl)
      · exact .inl hdone
      · exact .inr (.inr rfl)
    · rintro (hd | rfl | rfl)
      · exact .inl (.inl (.inl hd))
      · exact .inl (.inl (.inr rfl))
      · exact .inr rfl

end Back

/-! ## Sessions that are kept -/

/-- A save is read from its text as it is: its values can be stored, nested no deeper than the
reader goes, and its numbers are finite. -/
structure Save.Lasts (save : Save) : Prop where
  storable : ∃ depth, depth + 5 ≤ Json.depthLimit ∧ save.Storable depth
  finite : save.finite = save

theorem Save.Lasts.reread {save : Save} (h : save.Lasts) : save.reread = save := by
  obtain ⟨depth, -, hstorable⟩ := h.storable
  rw [hstorable.reread, h.finite]

theorem Fields.insert_of_find? {α : Type} {name : String} {value : α} {entries : Fields α}
    (hsorted : entries.Ascending) (h : entries.find? name = some value) :
    entries.insert name value = entries := by
  induction entries with
  | nil => cases h
  | cons entry rest ih =>
    obtain ⟨key, old⟩ := entry
    rw [find?_cons] at h
    rw [insert]
    split at h
    · next hkey =>
      cases h
      rw [if_pos hkey, hkey]
    · next hkey =>
      have hlater : key < name := (List.pairwise_cons.mp hsorted).1 _ (mem_of_find? h)
      rw [if_neg hkey, if_neg (String.lt_asymm hlater), ih (List.pairwise_cons.mp hsorted).2 h]

/-- Fields with the same names, none of them twice, are the same if they read the same. -/
theorem Fields.eq_of_find? {α : Type} {a b : Fields α} (hnames : b.names = a.names)
    (hn : a.names.Nodup) (h : ∀ name, b.find? name = a.find? name) : b = a := by
  have hentries : ∀ entries : Fields α, entries.names.Nodup →
      entries.map (fun entry => (entry.1, entries.find? entry.1)) =
        entries.map fun entry => (entry.1, some entry.2) := fun entries hnodup =>
    List.map_congr_left fun entry hmem => by rw [find?_of_mem hnodup hmem]
  have htables : ∀ entries : Fields α, entries.map (fun entry => (entry.1, entries.find? entry.1)) =
      entries.names.map fun name => (name, entries.find? name) := fun entries => by
    rw [names, List.map_map]
    rfl
  have hsame : b.map (fun entry => (entry.1, some entry.2)) =
      a.map fun entry => (entry.1, some entry.2) := by
    rw [← hentries b (hnames ▸ hn), ← hentries a hn, htables, htables, hnames]
    exact List.map_congr_left fun name _ => by rw [h]
  refine (List.map_inj_right fun x y hxy => ?_).mp hsame
  obtain ⟨hkey, hvalue⟩ := Prod.mk.inj hxy
  exact Prod.ext hkey (Option.some.inj hvalue)

/-- An interpreter that was loaded and restored shows under some names what another does, but for
the scratch record, which is empty. -/
structure Script.Interpreter.Restored (names : Names) (fresh before it : Interpreter) : Prop where
  scratch : it.Holds Stage.scratchName (.record [])
  scope : ∀ name, names.has name = true → name ≠ Stage.scratchName →
    Scope.find? name before.scope = Scope.find? name it.scope
  dice : before.dice = it.dice
  functions : before.functions = it.functions
  procedures : it.procedures = fresh.procedures
  helpers : it.helpers = fresh.helpers

/-- Two stories of a document whose sections read the same are equal but for their stages. -/
theorem Story.Plays.eq_on_stage {σ : Type} {document : Document} {a b : Story σ} {engine : σ}
    (ha : a.Plays document) (hb : (Story.ofDocument document engine).SameBook b)
    (hn : a.sections.names.Nodup) (h : ∀ id, b.section? id = a.section? id) :
    b = { a with stage := b.stage } := by
  have hnames : b.sections.names = a.sections.names := by
    rw [hb.names_sections, ha.names_sections, Story.names_ofDocument]
  have hsections := Fields.eq_of_find? hnames hn h
  obtain ⟨engine', hbook⟩ := ha.book
  rw [hb.rest, hbook.rest, hsections]
  rfl

namespace Session

/-- The variables that are made anew when a session goes on from its save. -/
def BringsBack (session : Session Interpreter) (name : String) : Prop :=
  (∃ id s, session.story.section? id = some s ∧ s.visits ≠ 0 ∧ name = sectionNamespace id) ∨
    name = Stage.scratchName ∨ name = Stage.aliasName ∨ name ∈ session.story.roster

/-- The names that are made anew with the sections of a save. -/
def Reopened (session : Session Interpreter) (name : String) : Prop :=
  (∃ id ∈ (session.save Script.engine).sections.names, name = sectionNamespace id) ∨
    name = Stage.scratchName ∨ name = Stage.aliasName

/-- What scripts have left behind is in the save, or no script reads it. `fresh` is the interpreter
of the story when it was just loaded, and `names` cover what its scripts read. -/
structure Kept (names : Names) (fresh : Interpreter) (session : Session Interpreter) : Prop where
  /-- All that is saved is read as it is. -/
  lasts : (session.save Script.engine).Lasts
  /-- Declared variables are still variables. -/
  declared : ∀ name ∈ session.story.roster, ∃ value,
    session.story.stage.engine.Holds name value
  /-- The scratch record is no constant, and empty if it is declared as a variable. -/
  scratch : session.story.stage.engine.isConstant Stage.scratchName = false ∧
    (Stage.scratchName ∈ session.story.roster →
      session.story.stage.engine.Holds Stage.scratchName (.record []))
  /-- The alias and the namespace of the current section hold the same private variables, with the
  visit count among them. -/
  current : ∃ s vars, session.story.section? session.current = some s ∧
    session.story.stage.engine.Holds Stage.aliasName (.record vars) ∧
    session.story.stage.engine.Holds (sectionNamespace session.current) (.record vars) ∧
    Fields.find? Stage.visitsName vars = some (.int (Int64.ofNat s.visits.toNat))
  /-- Sections that were entered have private variables. -/
  privates : ∀ id s, session.story.section? id = some s → s.visits ≠ 0 →
    ∃ vars ≠ [], session.story.stage.engine.Holds (sectionNamespace id) (.record vars)
  /-- Loading makes no constant of what is made anew. -/
  free : ∀ name, session.BringsBack name → fresh.isConstant name = false
  /-- Everything else that scripts read is as it was loaded. -/
  others : ∀ name, names.has name = true → ¬ session.BringsBack name →
    Scope.find? name session.story.stage.engine.scope = Scope.find? name fresh.scope
  /-- No functions have come on top of those that were loaded. -/
  functions : session.story.stage.engine.functions = fresh.functions

/-- Going on from a save succeeds if loading, restoring and putting back do. -/
theorem resume_of_ok {σ : Type} {E : Engine σ} {source : Source σ} {save : Save}
    {story entered written : Story σ} (hschema : save.schema = Save.currentSchema)
    (hload : source.load E = .ok story)
    (hsections : restoreSections E save story = (.ok (), entered))
    (hput : entered.putBack E save.globals = (.ok (), written)) :
    resume E source save = .ok ⟨source, restoreDice E save written, save.sectionId⟩ := by
  rw [resume, if_neg (not_not_intro hschema), hload]
  simp only [bind, Except.bind, hsections, hput]

/-- A section that was entered is in the save with its progress. -/
theorem mem_save {σ : Type} {E : Engine σ} {session : Session σ} {text : String}
    {document : Document} (hplays : session.Plays text document) {id : String} {s : Section}
    (hs : session.story.section? id = some s) (hvisited : s.visits ≠ 0) :
    (id, s.progress (Stage.privates E id session.story.stage)) ∈ (session.save E).sections := by
  refine Fields.mem_of_find? ((Story.find?_progress E hplays.names_nodup id).trans ?_)
  rw [hs, Option.filter_some, if_pos (by simpa using hvisited), Option.map_some]

namespace Kept

variable {names : Names} {fresh : Interpreter} {session : Session Interpreter} {text : String}
  {document : Document}

theorem valueOf {name : String} {value : Value} {st : Stage Interpreter}
    (h : st.engine.Holds name value) : Stage.valueOf Script.engine name st = value :=
  Stage.valueOf_reads h.read

/-- A section in the save was entered, and its private variables are saved. -/
theorem saved (h : session.Kept names fresh) (hplays : session.Plays text document)
    {entry : String × Progress} (hmem : entry ∈ (session.save Script.engine).sections) :
    ∃ s, session.story.section? entry.1 = some s ∧ s.visits ≠ 0 ∧ entry.2.vars ≠ [] ∧
      session.story.stage.engine.Holds (sectionNamespace entry.1) (.record entry.2.vars) := by
  have hfind : (session.story.progress Script.engine).find? entry.1 = some entry.2 :=
    Fields.find?_of_mem (Fields.ascending_sorted _).nodup_names hmem
  rw [Story.find?_progress Script.engine hplays.names_nodup, Option.map_eq_some_iff] at hfind
  obtain ⟨s, hs, hentry⟩ := hfind
  obtain ⟨hs, hvisits⟩ := Option.filter_eq_some_iff.mp hs
  have hvisited : s.visits ≠ 0 := by simpa using hvisits
  obtain ⟨vars, hfull, hholds⟩ := h.privates entry.1 s hs hvisited
  have hvars : entry.2.vars = vars := by
    rw [← hentry]
    exact Stage.privates_reads hholds.read
  exact ⟨s, hs, hvisited, hvars ▸ hfull, hvars ▸ hholds⟩

/-- The sections of a save are restored, with their private variables. -/
theorem restore (h : session.Kept names fresh) (hplays : session.Plays text document) :
    ∃ kept, Story.restore Script.engine (session.save Script.engine).sections
        (Story.ofDocument document fresh) = (.ok (), kept) ∧
      (∀ id, kept.section? id = session.story.section? id) ∧
      (Story.ofDocument document fresh).SameBook kept ∧
      Interpreter.Between (fun name => ∃ id ∈ (session.save Script.engine).sections.names,
        name = sectionNamespace id) fresh session.story.stage.engine.cleared
          kept.stage.engine := by
  have hhas : ∀ id, (Story.ofDocument document fresh).hasSection id =
      session.story.hasSection id := by
    obtain ⟨engine, hbook⟩ := hplays.story.book
    exact fun id => (hbook.hasSection id).symm
  have hknown : ∀ entry ∈ (session.save Script.engine).sections,
      (Story.ofDocument document fresh).hasSection entry.1 = true := fun entry hmem => by
    obtain ⟨s, hs, -⟩ := h.saved hplays hmem
    rw [hhas]
    exact Story.hasSection_iff.mpr ⟨s, hs⟩
  obtain ⟨kept, hkept, hbetween⟩ := Story.restore_between
    (Interpreter.Between.start fresh session.story.stage.engine.cleared) hknown fun entry hmem => by
      obtain ⟨s, hs, hvisited, hfull, hholds⟩ := h.saved hplays hmem
      exact ⟨hfull, hholds.cleared (sectionNamespace_ne_scratch _),
        h.free _ (.inl ⟨_, s, hs, hvisited, rfl⟩)⟩
  exact ⟨kept, hkept, hplays.section?_restored (h.lasts.reread.symm ▸ hkept),
    Story.sameBook_restore hkept, hbetween.congr fun name => by simp⟩

/-- What is made anew: the namespaces of the saved sections, the two reserved records, and the
declared variables. -/
theorem bringsBack_iff (h : session.Kept names fresh) (hplays : session.Plays text document)
    (name : String) :
    session.BringsBack name ↔ session.Reopened name ∨ name ∈ session.story.roster := by
  have hsaved : (∃ id ∈ (session.save Script.engine).sections.names, name = sectionNamespace id) ↔
      ∃ id s, session.story.section? id = some s ∧ s.visits ≠ 0 ∧ name = sectionNamespace id := by
    constructor
    · rintro ⟨id, hid, hname⟩
      obtain ⟨entry, hentry, rfl⟩ := List.mem_map.mp hid
      obtain ⟨s, hs, hvisited, -⟩ := h.saved hplays hentry
      exact ⟨_, s, hs, hvisited, hname⟩
    · rintro ⟨id, s, hs, hvisited, hname⟩
      exact ⟨id, List.mem_map_of_mem (mem_save hplays hs hvisited), hname⟩
  rw [Reopened, hsaved, BringsBack, or_assoc, or_assoc]

/-- Private variables that are saved are sorted. -/
theorem sorted (h : session.Kept names fresh) (hplays : session.Plays text document)
    {id : String} {s : Section} {vars : Variables} (hs : session.story.section? id = some s)
    (hvisited : s.visits ≠ 0)
    (howned : session.story.stage.engine.Holds (sectionNamespace id) (.record vars)) :
    Fields.Ascending vars := by
  obtain ⟨depth, -, hstorable⟩ := h.lasts.storable
  have hsorted := (hstorable.sections _ (mem_save hplays hs hvisited)).sorted
  have hvars : Stage.privates Script.engine id session.story.stage = vars :=
    Stage.privates_reads howned.read
  rwa [Section.progress, hvars] at hsorted

/-- The sections of a save are restored, and the current one is bound. -/
theorem reopen (h : session.Kept names fresh) (hplays : session.Plays text document) :
    ∃ kept bound, restoreSections Script.engine (session.save Script.engine)
        (Story.ofDocument document fresh) =
          (.ok (), { kept with stage := ⟨bound, some session.current⟩ }) ∧
      (∀ id, kept.section? id = session.story.section? id) ∧
      (Story.ofDocument document fresh).SameBook kept ∧
      Interpreter.Between session.Reopened fresh session.story.stage.engine.cleared bound := by
  obtain ⟨kept, hkept, hsections, hbook, hrestored⟩ := h.restore hplays
  obtain ⟨s, vars, hs, halias, howned, hvisits⟩ := h.current
  have hid : s.id = session.current := hplays.cursor.keyed _ _ hs
  have hvisited := hplays.visited s hs
  have hmem : session.current ∈ (session.save Script.engine).sections.names :=
    List.mem_map_of_mem (mem_save hplays hs hvisited)
  have hfree : ∀ name ∈ [Stage.scratchName, Stage.aliasName, sectionNamespace s.id],
      fresh.isConstant name = false := by
    intro name hname
    refine h.free name ?_
    simp only [List.mem_cons, List.not_mem_nil, or_false] at hname
    rcases hname with rfl | rfl | rfl
    · exact .inr (.inl rfl)
    · exact .inr (.inr (.inl rfl))
    · exact .inl ⟨_, s, hs, hvisited, congrArg sectionNamespace hid⟩
  obtain ⟨bound, hbound, hentered⟩ := Section.rebind_between kept.stage hrestored
    ⟨_, hmem, congrArg sectionNamespace hid⟩ (Interpreter.holds_cleared h.scratch.1)
    (halias.cleared (by decide)) (hid ▸ howned.cleared (sectionNamespace_ne_scratch _))
    (Fields.insert_of_find? (h.sorted hplays hs hvisited howned) hvisits) hfree
  refine ⟨kept, bound, ?_, hsections, hbook, hentered⟩
  have hfull : (session.save Script.engine).sections.isEmpty = false := by
    rw [List.isEmpty_eq_false_iff]
    intro hnil
    rw [hnil] at hmem
    cases hmem
  have hcurrent : kept.section? (session.save Script.engine).sectionId = some s :=
    (hsections _).trans hs
  rw [restoreSections, hfull, if_neg Bool.false_ne_true, hkept]
  dsimp only
  rw [Story.rebind_known hcurrent, hbound, hid]

/-- The declared variables are saved with what they are to hold. -/
theorem declared_saved (h : session.Kept names fresh) {name : String}
    (hname : name ∈ session.story.roster) : fresh.isConstant name = false ∧
      ∃ value, (session.save Script.engine).globals.find? name = some value ∧
        session.story.stage.engine.cleared.Holds name value := by
  have hsaved : ∀ {value}, session.story.stage.engine.Holds name value →
      (session.save Script.engine).globals.find? name = some value := by
    intro value hvalue
    refine (Story.find?_snapshot Script.engine session.story name).trans ?_
    rw [if_pos hname, show Stage.valueOf _ _ _ = value from valueOf hvalue]
  refine ⟨h.free _ (.inr (.inr (.inr hname))), ?_⟩
  by_cases hscratch : name = Stage.scratchName
  · subst hscratch
    exact ⟨_, hsaved (h.scratch.2 hname), Interpreter.holds_cleared h.scratch.1⟩
  · obtain ⟨value, hvalue⟩ := h.declared name hname
    exact ⟨value, hsaved hvalue, hvalue.cleared hscratch⟩

/-- An interpreter that has everything back shows what it did, and the rest is as it was loaded. -/
theorem restored (h : session.Kept names fresh) (hplays : session.Plays text document)
    {last : Interpreter} (hbetween : Interpreter.Between
      (fun name => session.Reopened name ∨ name ∈ session.story.roster) fresh
      session.story.stage.engine.cleared last) :
    Interpreter.Restored names fresh session.story.stage.engine
      { last with dice := session.story.stage.engine.dice } where
  scratch := (hbetween.same _ (.inl (.inr (.inl rfl)))).trans
    (Interpreter.holds_cleared h.scratch.1)
  scope name hname hne := by
    have hdone := h.bringsBack_iff hplays name
    by_cases hback : session.BringsBack name
    · exact ((hbetween.same name (hdone.mp hback)).trans (Interpreter.find?_cleared _ hne)).symm
    · rw [h.others name hname hback]
      exact (hbetween.rest name (hback ∘ hdone.mpr)).symm
  dice := rfl
  functions := h.functions.trans hbetween.functions.symm
  procedures := hbetween.procedures
  helpers := hbetween.helpers

/-- A session that is kept goes on from its save with what it was, but for the scratch record. -/
theorem resume (h : session.Kept names fresh) (hplays : session.Plays text document)
    {seed : UInt32} (hsource : session.source = ⟨text, .seeded seed⟩)
    (hload : Source.load Script.engine ⟨text, .seeded seed⟩ =
      .ok (Story.ofDocument document fresh)) :
    ∃ it, Session.resume Script.engine ⟨text, .seeded seed⟩ (session.save Script.engine) =
        .ok { session with
          story := { session.story with stage := { session.story.stage with engine := it } } } ∧
      Interpreter.Restored names fresh session.story.stage.engine it := by
  obtain ⟨kept, bound, hreopened, hsections, hbook, hentered⟩ := h.reopen hplays
  have hroster : kept.roster = session.story.roster := hbook.roster.trans hplays.roster_eq.symm
  obtain ⟨last, hlast, hbetween⟩ := Story.putBackOf_between ⟨bound, some session.current⟩ hentered
    fun name (hname : name ∈ kept.roster) => h.declared_saved (hroster ▸ hname)
  -- the sections are as they were
  have hstory : { kept with stage := ⟨last, some session.current⟩ } =
      { session.story with stage := { session.story.stage with engine := last } } := by
    have heq := hplays.story.eq_on_stage (hbook.trans (.on_stage kept
      ⟨last, some session.current⟩)) hplays.names_nodup hsections
    rw [heq]
    dsimp only
    rw [hplays.cursor.bound]
  have hputBack : Story.putBack Script.engine (session.save Script.engine).globals
      { kept with stage := ⟨bound, some session.current⟩ } =
        (.ok (), { session.story with stage := { session.story.stage with engine := last } }) := by
    rw [Story.putBack, Story.onStage, hlast, ← hstory]
  refine ⟨_, ?_, h.restored hplays (hroster ▸ hbetween)⟩
  rw [resume_of_ok rfl hload hreopened hputBack, ← hsource]
  rfl

end Kept

end Session

end Gamebook
