import Gamebook.Proofs.Registering
import Gamebook.Proofs.Story.Operations
import Mathlib.Data.List.Nodup

/-!
# The journal of namespaces

The namespace of a section changes when the section is bound and when the alias is copied back to
it. The journal of a sequence of operations notes both, with what they leave in the namespace. On an
engine that always stores variables, and whose scripts change no namespace themselves, the journal
tells what every namespace holds: what was noted last for its section, or the private variables that
the document gives it. A section that is entered finds just that under the alias, with its visit
count.

* `Engine.SparesNamespaces` : what is asked of the engine.
* `Story.notes`, `Story.journal` : what operations note.
* `Stage.Accounts` : what was noted accounts for all changes of namespaces.
* `Story.namespaces_persist` : namespaces over whole runs.
-/

namespace Gamebook

variable {σ : Type} {E : Engine σ}

/-- What is written always reads back, writing changes no other variable, and scripts change no
variable whose name begins as those of namespaces do. -/
structure Engine.SparesNamespaces (E : Engine σ) : Prop where
  read_written (name : String) (value : Value) (state : σ) :
    E.read name (E.write name value state).2 = .ok value
  read_other {name other : String} (h : other ≠ name) (value : Value) (state : σ) :
    E.read other (E.write name value state).2 = E.read other state
  read_executed (rest code : String) (state : σ) :
    E.read ("__s_" ++ rest) (E.execute code state).2 = E.read ("__s_" ++ rest) state
  read_evaluated (rest expression : String) (state : σ) :
    E.read ("__s_" ++ rest) (E.evaluate expression state).2 = E.read ("__s_" ++ rest) state
  read_called (rest name : String) (args : List Value) (state : σ) :
    E.read ("__s_" ++ rest) (E.call name args state).2 = E.read ("__s_" ++ rest) state

theorem Engine.SparesNamespaces.recalls (hE : E.SparesNamespaces) : E.Recalls where
  read_written {name value before after} h := by
    rw [← hE.read_written name value before, h]
  read_other := hE.read_other

/-! ## Journals -/

/-- A section that was bound, or to which the alias was copied back, with the private variables that
this left it with. -/
structure Entry where
  sectionId : String
  fields : Variables

/-- Entries, in the order of their writing. -/
abbrev Journal := List Entry

namespace Journal

/-- The private variables of a section: those of its last entry, or else those at the start. -/
def lastOf (id : String) (start : Variables) (journal : Journal) : Variables :=
  journal.foldl (fun fields entry => if entry.sectionId = id then entry.fields else fields) start

/-- What a variable reads as after the namespaces of a journal were written. -/
def written (name : String) (before : Except Fault Value) (journal : Journal) :
    Except Fault Value :=
  journal.foldl (fun value entry =>
    if sectionNamespace entry.sectionId = name then .ok (.record entry.fields) else value) before

theorem written_append (name : String) (before : Except Fault Value) (first last : Journal) :
    written name before (first ++ last) = written name (written name before first) last :=
  List.foldl_append

theorem written_of_ne {name : String} {journal : Journal}
    (h : ∀ entry ∈ journal, sectionNamespace entry.sectionId ≠ name) (before : Except Fault Value) :
    written name before journal = before := by
  induction journal with
  | nil => rfl
  | cons entry rest ih =>
    rw [written, List.foldl_cons, if_neg (h entry List.mem_cons_self)]
    exact ih fun entry hmem => h entry (List.mem_cons_of_mem _ hmem)

/-- Where no other section of the journal has the namespace, the entries of its section decide. -/
theorem written_eq_lastOf {id : String} {journal : Journal}
    (h : ∀ entry ∈ journal, sectionNamespace entry.sectionId = sectionNamespace id →
      entry.sectionId = id) (start : Variables) :
    written (sectionNamespace id) (.ok (.record start)) journal =
      .ok (.record (lastOf id start journal)) := by
  induction journal generalizing start with
  | nil => rfl
  | cons entry rest ih =>
    have hrest := ih fun entry hmem => h entry (List.mem_cons_of_mem _ hmem)
    rw [written, lastOf, List.foldl_cons, List.foldl_cons]
    by_cases hid : entry.sectionId = id
    · rw [if_pos (congrArg sectionNamespace hid), if_pos hid]
      exact hrest entry.fields
    · rw [if_neg fun hname => hid (h entry List.mem_cons_self hname), if_neg hid]
      exact hrest start

end Journal

namespace Stage

/-! ## What the stage notes -/

/-- What copying the alias back notes; nothing if no section is bound or the alias is no record. -/
def committed (E : Engine σ) (st : Stage σ) : Journal :=
  match st.bound, valueOf E aliasName st with
  | some id, .record fields => [⟨id, fields⟩]
  | _, _ => []

/-- What running statements notes. -/
def ran (E : Engine σ) (code : String) (st : Stage σ) : Journal :=
  committed E { st with engine := (E.execute code st.engine).2 }

/-- What calling a procedure or function notes. -/
def called (E : Engine σ) (name : String) (args : List Value) (st : Stage σ) : Journal :=
  committed E { st with engine := (E.call name args st.engine).2 }

/-- What statements note, if there are any. -/
def codeNotes (E : Engine σ) (code : Option String) (st : Stage σ) : Journal :=
  match code with
  | some code => ran E code st
  | none => []

/-- What an effect and the procedure after it note. -/
def effectNotes (E : Engine σ) (effect : Option String) (st : Stage σ) : Journal :=
  let st' := runCode E effect st
  codeNotes E effect st ++
    if E.hasFunction afterOptionName st'.engine then called E afterOptionName [] st' else []

/-- What binding a section notes: its private variables with its visit count. -/
def binding (E : Engine σ) (s : Section) (st : Stage σ) : Entry := ⟨s.id, s.noted E st⟩

theorem committed_eq_nil {st : Stage σ}
    (h : ∀ fields, E.read aliasName st.engine ≠ .ok (.record fields)) : committed E st = [] := by
  unfold committed
  split
  · next fields _ halias =>
    unfold valueOf at halias
    split at halias
    · next value hread => exact absurd (halias ▸ hread) (h fields)
    · cases halias
  · rfl

/-! ## Whose namespaces the stage notes -/

theorem bound_of_committed {st : Stage σ} {entry : Entry} (h : entry ∈ committed E st) :
    st.bound = some entry.sectionId := by
  unfold committed at h
  split at h
  · next hbound _ =>
    obtain rfl := List.mem_singleton.mp h
    exact hbound
  · cases h

theorem bound_of_called {name : String} {args : List Value} {st : Stage σ} {entry : Entry}
    (h : entry ∈ called E name args st) : st.bound = some entry.sectionId := by
  have hcommitted : entry ∈ committed E { st with engine := (E.call name args st.engine).2 } := h
  have hbound := bound_of_committed hcommitted
  exact hbound

theorem bound_of_codeNotes {code : Option String} {st : Stage σ} {entry : Entry}
    (h : entry ∈ codeNotes E code st) : st.bound = some entry.sectionId := by
  cases code with
  | none => cases h
  | some code =>
    have hcommitted : entry ∈ committed E { st with engine := (E.execute code st.engine).2 } := h
    have hbound := bound_of_committed hcommitted
    exact hbound

theorem bound_of_effectNotes {effect : Option String} {st : Stage σ} {entry : Entry}
    (h : entry ∈ effectNotes E effect st) : st.bound = some entry.sectionId := by
  rcases List.mem_append.mp h with h | h
  · exact bound_of_codeNotes h
  · split at h
    · rw [← bound_runCode (E := E) effect st]
      exact bound_of_called h
    · cases h

end Stage

namespace Story

/-- What an operation notes. -/
def notes (E : Engine σ) (story : Story σ) : Operation → Journal
  | .visit id =>
    match story.section? id with
    | some s =>
      Stage.binding E s.counted story.stage ::
        Stage.codeNotes E s.run (s.counted.rebind E story.stage)
    | none => []
  | .rebind id =>
    match story.section? id with
    | some s => [Stage.binding E s story.stage]
    | none => []
  | .executeOption sectionId optionId =>
    match story.choice? sectionId optionId with
    | some choice => Stage.effectNotes E choice.effect story.stage
    | none => []
  | .trigger eventId args =>
    if story.events.has eventId then Stage.called E (eventFunction eventId) args story.stage
    else []
  | .text _ => []
  | .offers _ => []
  | .replaceVars _ => []

/-- What operations note, one after the other. -/
def journal (E : Engine σ) (story : Story σ) : List Operation → Journal
  | [] => []
  | operation :: rest =>
    story.notes E operation ++ journal E (story.perform E operation) rest

end Story

namespace Stage

/-! ## Accounts -/

/-- All that has become of the namespaces was noted. -/
def Accounts (E : Engine σ) (before : Stage σ) (notes : Journal) (after : Stage σ) : Prop :=
  ∀ id, reads E (sectionNamespace id) after =
    Journal.written (sectionNamespace id) (reads E (sectionNamespace id) before) notes

namespace Accounts

theorem refl (st : Stage σ) : Accounts E st [] st := fun _ => rfl

theorem trans {first middle last : Stage σ} {notes notes' : Journal}
    (h₁ : Accounts E first notes middle) (h₂ : Accounts E middle notes' last) :
    Accounts E first (notes ++ notes') last := by
  intro id
  rw [h₂ id, h₁ id, Journal.written_append]

/-- What leaves every namespace alone has nothing to note. -/
theorem of_reads {before after : Stage σ}
    (h : ∀ id, reads E (sectionNamespace id) after = reads E (sectionNamespace id) before) :
    Accounts E before [] after := h

end Accounts

section Spares

variable (hE : E.SparesNamespaces)
include hE

theorem reads_put_written (name : String) (value : Value) (st : Stage σ) :
    reads E name (put E name value st) = .ok value := hE.read_written name value st.engine

theorem accounts_looks {st after : Stage σ} (h : Looks E st after) : Accounts E st [] after := by
  refine .of_reads fun id => ?_
  have hread : ∀ {first last : σ}, E.Evaluated first last →
      E.read (sectionNamespace id) last = E.read (sectionNamespace id) first := by
    intro first last heval
    induction heval with
    | none => rfl
    | next expression _ ih => exact (hE.read_evaluated _ expression _).trans ih
  exact hread h.evaluated

/-- Writing the namespace of a section is accounted for by one entry. -/
theorem accounts_namespace (id : String) (fields : Variables) (st : Stage σ) :
    Accounts E st [⟨id, fields⟩] (put E (sectionNamespace id) (.record fields) st) := by
  intro other
  rw [Journal.written, List.foldl_cons, List.foldl_nil]
  split
  · next h => rw [← h]; exact reads_put_written hE _ _ st
  · next h => exact reads_put_of_ne hE.recalls (Ne.symm h) _ st

theorem accounts_commit (st : Stage σ) : Accounts E st (committed E st) (commit E st) := by
  unfold committed commit
  cases st.bound with
  | none => exact .refl st
  | some id =>
    cases valueOf E aliasName st with
    | record fields => exact accounts_namespace hE id fields st
    | nil | bool | int | number | text | list => exact .refl st

theorem accounts_run (code : String) (st : Stage σ) :
    Accounts E st (ran E code st) (run E code st).2 := by
  have hexecuted : Accounts E st [] { st with engine := (E.execute code st.engine).2 } :=
    .of_reads fun id => hE.read_executed _ code st.engine
  exact hexecuted.trans (accounts_commit hE _)

theorem accounts_call (name : String) (args : List Value) (st : Stage σ) :
    Accounts E st (called E name args st) (call E name args st).2 := by
  have hcalled : Accounts E st [] { st with engine := (E.call name args st.engine).2 } :=
    .of_reads fun id => hE.read_called _ name args st.engine
  exact hcalled.trans (accounts_commit hE _)

theorem accounts_runCode (code : Option String) (st : Stage σ) :
    Accounts E st (codeNotes E code st) (runCode E code st) := by
  cases code with
  | none => exact .refl st
  | some code => exact accounts_run hE code st

theorem accounts_effected (effect : Option String) (st : Stage σ) :
    Accounts E st (effectNotes E effect st) (effected E effect st) := by
  refine (accounts_runCode hE effect st).trans ?_
  rw [effected, callHook]
  split
  · exact accounts_call hE _ _ _
  · exact .refl _

theorem accounts_takeRedirect (st : Stage σ) : Accounts E st [] (takeRedirect E st).2 := by
  refine .of_reads fun id => ?_
  rw [takeRedirect]
  dsimp only
  split
  · rfl
  · exact reads_put_of_ne hE.recalls (sectionNamespace_ne_redirect id) _ st

/-- Binding a section notes what it leaves under the alias. -/
theorem rebind_spares (s : Section) (st : Stage σ) :
    Accounts E st [binding E s st] (s.rebind E st) ∧
      reads E aliasName (s.rebind E st) = .ok (.record (binding E s st).fields) := by
  rw [Section.rebind_eq hE.recalls]
  refine ⟨?_, reads_put_written hE _ _ _⟩
  have hscratch : Accounts E st [] (resetScratch E st) :=
    .of_reads fun id => reads_put_of_ne hE.recalls (sectionNamespace_ne_scratch id) _ st
  have hput := hscratch.trans (accounts_namespace hE s.id (s.noted E st) (resetScratch E st))
  rw [← List.append_nil [binding E s st]]
  exact hput.trans (.of_reads fun id =>
    reads_put_of_ne hE.recalls (sectionNamespace_ne_alias id) _ _)

end Spares

end Stage

namespace Story

variable {story : Story σ}

/-! ## Operations and their notes -/

theorem notes_misses {operation : Operation} (h : story.Misses operation) :
    story.notes E operation = [] := by
  cases operation with
  | visit id | rebind id | executeOption sectionId optionId | trigger eventId args =>
    rw [Misses] at h
    simp [notes, h]
  | text id | offers id | replaceVars template => rfl

theorem notes_shows {operation : Operation} (h : operation.Shows) (story : Story σ) :
    story.notes E operation = [] := by
  cases operation with
  | text id | offers id | replaceVars template => rfl
  | visit id | rebind id | executeOption sectionId optionId | trigger eventId args => cases h

theorem Performed.accounts (hE : E.SparesNamespaces) {operation : Operation} {after : Story σ}
    (h : Performed E story operation after) :
    Stage.Accounts E story.stage (story.notes E operation) after.stage := by
  cases h with
  | missed h =>
    rw [notes_misses h]
    exact .refl _
  | shown h hlooks =>
    rw [notes_shows h]
    exact Stage.accounts_looks hE hlooks
  | visited hs =>
    simp only [notes, hs]
    exact (Stage.rebind_spares hE _ story.stage).1.trans (Stage.accounts_runCode hE _ _)
  | rebound hs =>
    simp only [notes, hs]
    exact (Stage.rebind_spares hE _ story.stage).1
  | executed hc hlooks =>
    rename_i id optionId choice stage
    simp only [notes, hc]
    have htaken := (Stage.accounts_effected hE choice.effect story.stage).trans
      (Stage.accounts_takeRedirect hE _)
    have hnotice := htaken.trans (Stage.accounts_looks hE hlooks)
    rwa [List.append_nil, List.append_nil] at hnotice
  | triggered h args =>
    simp only [notes, h]
    exact Stage.accounts_call hE _ args story.stage

theorem accounts_perform (hE : E.SparesNamespaces) (story : Story σ) (operation : Operation) :
    Stage.Accounts E story.stage (story.notes E operation) (story.perform E operation).stage :=
  (performed E story operation).accounts hE

/-- The journal of operations accounts for what has become of the namespaces. -/
theorem accounts_play (hE : E.SparesNamespaces) (story : Story σ) (operations : List Operation) :
    Stage.Accounts E story.stage (story.journal E operations)
      (story.play E operations).stage := by
  induction operations generalizing story with
  | nil => exact .refl story.stage
  | cons operation rest ih => exact (accounts_perform hE story operation).trans (ih _)

/-! ## Whose namespaces are noted -/

/-- The section that an operation leaves bound: the one before, or a section of the story. -/
theorem Performed.bound {operation : Operation} {after : Story σ}
    (h : Performed E story operation after) :
    after.stage.bound = story.stage.bound ∨
      ∃ id s, story.section? id = some s ∧ after.stage.bound = some s.id := by
  cases h with
  | missed => exact .inl rfl
  | shown _ hlooks => exact .inl hlooks.bound
  | visited hs => exact .inr ⟨_, _, hs, Stage.bound_runCode _ _⟩
  | rebound hs => exact .inr ⟨_, _, hs, rfl⟩
  | executed hc hlooks =>
    refine .inl (hlooks.bound.trans ?_)
    rw [Stage.bound_takeRedirect, Stage.bound_effected]
  | triggered h args => exact .inl (Stage.bound_call _ args story.stage)

/-- An operation notes the section that is bound before it or after it. -/
theorem Performed.bound_of_notes {operation : Operation} {after : Story σ}
    (h : Performed E story operation after) {entry : Entry}
    (hentry : entry ∈ story.notes E operation) :
    story.stage.bound = some entry.sectionId ∨ after.stage.bound = some entry.sectionId := by
  cases h with
  | missed h =>
    rw [notes_misses h] at hentry
    cases hentry
  | shown h _ =>
    rw [notes_shows h] at hentry
    cases hentry
  | visited hs =>
    simp only [notes, hs] at hentry
    refine .inr ((Stage.bound_runCode _ _).trans ?_)
    rcases List.mem_cons.mp hentry with rfl | hentry
    · rfl
    · exact Stage.bound_of_codeNotes hentry
  | rebound hs =>
    simp only [notes, hs] at hentry
    obtain rfl := List.mem_singleton.mp hentry
    exact .inr rfl
  | executed hc _ =>
    simp only [notes, hc] at hentry
    exact .inl (Stage.bound_of_effectNotes hentry)
  | triggered h args =>
    simp only [notes, h] at hentry
    exact .inl (Stage.bound_of_called hentry)

/-- A bound section is a section of the story. -/
def BindsKnown (story : Story σ) : Prop :=
  ∀ id, story.stage.bound = some id → story.hasSection id = true

theorem bindsKnown_perform (hk : story.Keyed) (h : story.BindsKnown) (operation : Operation) :
    (story.perform E operation).BindsKnown := by
  intro id hbound
  rw [(sameBook_perform E story operation).hasSection]
  obtain hsame | ⟨other, s, hs, hother⟩ := (performed E story operation).bound
  · exact h id (hsame ▸ hbound)
  · obtain rfl : s.id = id := Option.some.inj (hother.symm.trans hbound)
    rw [hk other s hs]
    exact hasSection_iff.mpr ⟨s, hs⟩

theorem hasSection_of_notes (hk : story.Keyed) (hb : story.BindsKnown) {operation : Operation}
    {entry : Entry} (h : entry ∈ story.notes E operation) :
    story.hasSection entry.sectionId = true := by
  obtain hbefore | hafter := (performed E story operation).bound_of_notes h
  · exact hb _ hbefore
  · rw [← (sameBook_perform E story operation).hasSection]
    exact bindsKnown_perform hk hb operation _ hafter

theorem bindsKnown_play (hk : story.Keyed) (hb : story.BindsKnown) (operations : List Operation) :
    (story.play E operations).BindsKnown := by
  induction operations generalizing story with
  | nil => exact hb
  | cons operation rest ih =>
    exact ih ((sameBook_perform E story operation).keyed hk) (bindsKnown_perform hk hb operation)

/-- A journal notes sections of the story. -/
theorem hasSection_of_journal (hk : story.Keyed) (hb : story.BindsKnown)
    {operations : List Operation} {entry : Entry} (h : entry ∈ story.journal E operations) :
    story.hasSection entry.sectionId = true := by
  induction operations generalizing story with
  | nil => cases h
  | cons operation rest ih =>
    rcases List.mem_append.mp h with hnoted | hrest
    · exact hasSection_of_notes hk hb hnoted
    · rw [← (sameBook_perform E story operation).hasSection]
      exact ih ((sameBook_perform E story operation).keyed hk)
        (bindsKnown_perform hk hb operation) hrest

/-! ## Namespaces over whole runs -/

/-- No other section of the story has the namespace of this one. -/
def OwnsNamespace (story : Story σ) (id : String) : Prop :=
  ∀ other, story.hasSection other = true → sectionNamespace other = sectionNamespace id → other = id

/-- A namespace holds what was noted last for its section, or else what it held before. -/
theorem reads_play (hE : E.SparesNamespaces) (hk : story.Keyed) (hb : story.BindsKnown)
    {id : String} (hown : story.OwnsNamespace id) {start : Variables}
    (hstart : Stage.reads E (sectionNamespace id) story.stage = .ok (.record start))
    (operations : List Operation) :
    Stage.reads E (sectionNamespace id) (story.play E operations).stage =
      .ok (.record (Journal.lastOf id start (story.journal E operations))) := by
  rw [accounts_play hE story operations id, hstart]
  exact Journal.written_eq_lastOf (fun entry hmem =>
    hown _ (hasSection_of_journal hk hb hmem)) start

/-- An operation changes no namespace but that of the section bound before it or after it. -/
theorem bound_of_reads_ne (hE : E.SparesNamespaces) (hk : story.Keyed) (hb : story.BindsKnown)
    {id : String} (hown : story.OwnsNamespace id) {operation : Operation}
    (hchanged : Stage.reads E (sectionNamespace id) (story.perform E operation).stage ≠
      Stage.reads E (sectionNamespace id) story.stage) :
    story.stage.bound = some id ∨ (story.perform E operation).stage.bound = some id := by
  by_contra hunbound
  refine hchanged ?_
  rw [accounts_perform hE story operation id]
  refine Journal.written_of_ne (fun entry hmem hname => hunbound ?_) _
  obtain rfl := hown _ (hasSection_of_notes hk hb hmem) hname
  exact (performed E story operation).bound_of_notes hmem

/-- A section that is entered finds its namespace under the alias, with its visit count. -/
theorem reads_alias_entered (hE : E.SparesNamespaces) (hk : story.Keyed) {id : String}
    {s : Section} (hs : story.section? id = some s) {fields : Variables}
    (hread : Stage.reads E (sectionNamespace id) story.stage = .ok (.record fields)) :
    Stage.reads E Stage.aliasName (s.counted.rebind E story.stage) =
      .ok (.record (fields.insert Stage.visitsName
        (.int (Int64.ofNat s.counted.visits.toNat)))) := by
  have halias := (Stage.rebind_spares hE s.counted story.stage).2
  rwa [Stage.binding, Section.noted, Section.id_counted, hk id s hs,
    Stage.privates_reads hread] at halias

/-- What holds of the namespaces of a document in a story that was reached with a journal. -/
structure Persists (E : Engine σ) (document : Document) (story : Story σ) (journal : Journal) :
    Prop where
  /-- A namespace holds what was noted last for its section, or else what the document gives it. -/
  kept {id : String} {spec : SectionSpec} (h : (id, spec) ∈ document.sections) :
    Stage.reads E (sectionNamespace id) story.stage =
      .ok (.record (Journal.lastOf id (Fields.sorted spec.vars) journal))
  /-- A section that is entered finds just that under the alias, with its visit count, when its code
  starts. -/
  entered {id : String} {spec : SectionSpec} (h : (id, spec) ∈ document.sections) :
    ∃ s, story.section? id = some s ∧
      (story.perform E (.visit id)).visitsOf id = some s.counted.visits ∧
      (story.perform E (.visit id)).stage =
        Stage.runCode E s.run (s.counted.rebind E story.stage) ∧
      (s.counted.rebind E story.stage).bound = some id ∧
      Stage.reads E Stage.aliasName (s.counted.rebind E story.stage) =
        .ok (.record ((Journal.lastOf id (Fields.sorted spec.vars) journal).insert
          Stage.visitsName (.int (Int64.ofNat s.counted.visits.toNat))))
  /-- An operation changes no namespace but that of the section bound before it or after it. -/
  framed (operation : Operation) {id : String} {spec : SectionSpec}
    (h : (id, spec) ∈ document.sections)
    (hchanged : Stage.reads E (sectionNamespace id) (story.perform E operation).stage ≠
      Stage.reads E (sectionNamespace id) story.stage) :
    story.stage.bound = some id ∨ (story.perform E operation).stage.bound = some id
  /-- Statements that leave no record under the alias change no namespace. -/
  run_uncommitted (st : Stage σ) (code : String)
    (h : ∀ fields, E.read Stage.aliasName (E.execute code st.engine).2 ≠ .ok (.record fields))
    (id : String) :
    Stage.reads E (sectionNamespace id) (Stage.run E code st).2 =
      Stage.reads E (sectionNamespace id) st
  /-- Nor do calls that leave none there. -/
  call_uncommitted (st : Stage σ) (name : String) (args : List Value)
    (h : ∀ fields, E.read Stage.aliasName (E.call name args st.engine).2 ≠ .ok (.record fields))
    (id : String) :
    Stage.reads E (sectionNamespace id) (Stage.call E name args st).2 =
      Stage.reads E (sectionNamespace id) st

section Loaded

variable {document : Document} {id : String} {spec : SectionSpec}

theorem mem_of_hasSection {loaded : σ} (h : (ofDocument document loaded).hasSection id = true) :
    ∃ spec, (id, spec) ∈ document.sections := by
  obtain ⟨s, hs⟩ := hasSection_iff.mp h
  rw [section?_ofDocument, Option.map_eq_some_iff] at hs
  obtain ⟨spec, hspec, -⟩ := hs
  exact ⟨spec, Fields.mem_of_find? hspec⟩

theorem bindsKnown_ofDocument (document : Document) (loaded : σ) :
    (ofDocument document loaded).BindsKnown := by
  rintro id ⟨⟩

variable (hdistinct : (document.sections.map fun entry => sectionNamespace entry.1).Nodup)
include hdistinct

/-- Sections with pairwise different namespaces are told apart by them. -/
theorem eq_of_namespace {entry entry' : String × SectionSpec} (h : entry ∈ document.sections)
    (h' : entry' ∈ document.sections)
    (hname : sectionNamespace entry.1 = sectionNamespace entry'.1) : entry = entry' :=
  List.inj_on_of_nodup_map hdistinct h h' hname

theorem ownsNamespace_ofDocument (h : (id, spec) ∈ document.sections) (loaded : σ) :
    (ofDocument document loaded).OwnsNamespace id := by
  intro other hother hname
  obtain ⟨spec', hmem⟩ := mem_of_hasSection hother
  exact congrArg Prod.fst (eq_of_namespace hdistinct hmem h hname)

theorem section?_of_mem (h : (id, spec) ∈ document.sections) (loaded : σ) :
    (ofDocument document loaded).section? id = some (Section.ofSpec id spec) := by
  have hnames : document.sections.names.Nodup := by
    refine List.Nodup.of_map sectionNamespace ?_
    rwa [Fields.names, List.map_map]
  rw [section?_ofDocument, Fields.find?_of_mem hnames h, Option.map_some]

theorem reads_loaded (hE : E.SparesNamespaces) {engine loaded : σ}
    (hregister : register E document engine = (.ok (), loaded))
    (h : (id, spec) ∈ document.sections) :
    Stage.reads E (sectionNamespace id) (ofDocument document loaded).stage =
      .ok (.record (Fields.sorted spec.vars)) := by
  have hvars : document.privatesOf (sectionNamespace id) = some spec.vars :=
    Document.privatesOf_own h fun entry hmem hname => eq_of_namespace hdistinct hmem h hname
  have hread := reads_registered hE.recalls hregister hvars
  exact hread

end Loaded

/-- Over every run of operations, the journal tells what the namespaces of a loaded story hold. -/
theorem namespaces_persist (hE : E.SparesNamespaces) {document : Document} {engine : σ}
    {story : Story σ} (hload : (load E document engine).1 = .ok story)
    (hdistinct : (document.sections.map fun entry => sectionNamespace entry.1).Nodup)
    (operations : List Operation) :
    Persists E document (story.play E operations) (story.journal E operations) := by
  obtain ⟨loaded, hregister, rfl⟩ := load_ok hload
  have hbook := sameBook_play E (ofDocument document loaded) operations
  have hkeyed := keyed_ofDocument document loaded
  have hbinds := bindsKnown_ofDocument document loaded
  have hkept {id : String} {spec : SectionSpec} (h : (id, spec) ∈ document.sections) :=
    reads_play hE hkeyed hbinds (ownsNamespace_ofDocument hdistinct h loaded)
      (reads_loaded hdistinct hE hregister h) operations
  exact {
    kept := hkept
    entered := by
      intro id spec h
      obtain ⟨s, hs, -⟩ := hbook.known (section?_of_mem hdistinct h loaded)
      have hid := hbook.keyed hkeyed id s hs
      refine ⟨s, hs, ?_, by rw [perform_visit hs], ?_,
        reads_alias_entered hE (hbook.keyed hkeyed) hs (hkept h)⟩
      · rw [perform, visitsOf_visit hs, if_pos rfl, visitsOf, hs]
        rfl
      · rw [Section.bound_rebind, Section.id_counted, hid]
    framed := by
      intro operation id spec h hchanged
      refine bound_of_reads_ne hE (hbook.keyed hkeyed) (bindsKnown_play hkeyed hbinds operations)
        ?_ hchanged
      intro other hother
      refine ownsNamespace_ofDocument hdistinct h loaded other ?_
      exact hbook.hasSection other ▸ hother
    run_uncommitted := by
      intro st code h id
      rw [Stage.accounts_run hE code st id, Stage.ran, Stage.committed_eq_nil h]
      rfl
    call_uncommitted := by
      intro st name args h id
      rw [Stage.accounts_call hE name args st id, Stage.called, Stage.committed_eq_nil h]
      rfl }

/-! ### An engine whose scripts write themselves down -/

/-- An engine whose states are lists of variables. Running a script, or calling a name, writes it
down under the alias. -/
def jotting : Engine Variables where
  isReady _ := true
  execute code vars := (.ok .nil, vars.put Stage.aliasName (.record [("last", .text code)]))
  evaluate _ vars := (.ok .nil, vars)
  read name vars := .ok ((vars.find? name).getD .nil)
  write name value vars := (.ok (), vars.put name value)
  readAll := Fields.sorted
  hasFunction _ _ := false
  define _ _ _ vars := (.ok (), vars)
  call name _ vars := (.ok .nil, vars.put Stage.aliasName (.record [("last", .text name)]))
  addHelpers vars := (.ok (), vars)
  dice? _ := none
  setDice _ vars := vars

private theorem underscored_ne_alias (rest : String) : "__s_" ++ rest ≠ Stage.aliasName := by
  intro heq
  have hhead := congrArg (fun text => text.toList.head?) heq
  simp [Stage.aliasName] at hhead

theorem jotting_sparesNamespaces : jotting.SparesNamespaces where
  read_written name value vars := by simp [jotting, Fields.find?_put]
  read_other h value vars := by simp [jotting, Fields.find?_put, Ne.symm h]
  read_executed rest code vars := by
    simp [jotting, Fields.find?_put, Ne.symm (underscored_ne_alias rest)]
  read_evaluated _ _ _ := rfl
  read_called rest name args vars := by
    simp [jotting, Fields.find?_put, Ne.symm (underscored_ne_alias rest)]

/-- A hall whose lamps are lit on every visit, and an attic. -/
def hallAndAttic : Document :=
  { sections := [("hall", { vars := [("lamps", .int 2)], run := some "light" }), ("attic", {})] }

/-- A player looks into the hall, climbs up, and comes back. -/
theorem namespaces_persist_hall :
    ∃ story, (load jotting hallAndAttic []).1 = .ok story ∧
      Persists jotting hallAndAttic
        (story.play jotting [.visit "hall", .visit "attic", .visit "hall"])
        (story.journal jotting [.visit "hall", .visit "attic", .visit "hall"]) := by
  have hok : (load jotting hallAndAttic []).1.isOk = true := by decide +kernel
  obtain ⟨story, hload⟩ := ok_of_isOk hok
  exact ⟨story, hload, namespaces_persist jotting_sparesNamespaces hload (by decide +kernel) _⟩

example : ((ofDocument hallAndAttic []).journal jotting [.visit "hall", .visit "attic"]).map
    Entry.sectionId = ["hall", "hall", "attic"] := by decide +kernel

end Story

end Gamebook
