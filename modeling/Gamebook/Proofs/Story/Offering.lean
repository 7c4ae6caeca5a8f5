import Gamebook.Proofs.Session.Once
import Gamebook.Proofs.Templates

/-!
# Options on offer

Which options of a section are on offer, and what finding out asks of the engine. The gates of an
option are looked at first; if they are open, its guard is evaluated, in the order of the document
and each guard where those before it have left the engine. Only then are the texts rendered, of
those options whose guards hold. Nothing is asked of the engine but to evaluate guards and
placeholders.

* `Choice.Open`, `Choice.Passes` : the gates of an option, and when it is on offer.
* `Section.guards`, `Section.listed` : the guards that are evaluated, and the options that pass.
* `Section.availableOf_eq`, `Story.offersOf_eq` : first the guards, then the texts.
* `Story.offers_offering` : the options on offer, for every engine, story and section.
-/

namespace Gamebook

variable {σ : Type} {E : Engine σ}

namespace Choice

/-- The gates of an option are open: it is not hidden, and its flags fit the number of visits. -/
def Open (visits : UInt32) (choice : Choice) : Prop :=
  choice.hidden = false ∧ ("first" ∈ choice.flags → visits = 1) ∧
    ("not_first" ∈ choice.flags → visits ≠ 1)

theorem gatesOpen_iff {visits : UInt32} {choice : Choice} :
    choice.gatesOpen visits = true ↔ choice.Open visits := by
  simp [gatesOpen, Open, Decidable.imp_iff_not_or, and_assoc]

instance (visits : UInt32) (choice : Choice) : Decidable (choice.Open visits) :=
  decidable_of_iff _ gatesOpen_iff

/-- The option is on offer where the engine is in a state: its gates are open, and its guard, if it
has one, gives something true. -/
def Passes (E : Engine σ) (visits : UInt32) (state : σ) (choice : Choice) : Prop :=
  choice.Open visits ∧ ∀ guard, choice.condition = some guard →
    ∃ value, (E.evaluate guard state).1 = .ok value ∧ value.isTruthy = true

/-- The guard of an option whose gates are open. -/
def guard? (visits : UInt32) (choice : Choice) : Option String :=
  if choice.Open visits then choice.condition else none

/-- The placeholders of the option's text. -/
def placeholders (choice : Choice) : List String :=
  (Template.cut choice.text.toList).expressions

theorem isAvailable_iff {visits : UInt32} {choice : Choice} {st : Stage σ} :
    (choice.isAvailable E visits st).1 = true ↔ choice.Passes E visits st.engine := by
  rw [Passes, ← gatesOpen_iff, isAvailable]
  cases hopen : choice.gatesOpen visits with
  | false => simp
  | true =>
    cases hguard : choice.condition with
    | none => simp
    | some guard =>
      cases hvalue : (E.evaluate guard st.engine).1 <;> simp [Stage.check, hvalue]

instance (E : Engine σ) (visits : UInt32) (state : σ) (choice : Choice) :
    Decidable (choice.Passes E visits state) :=
  decidable_of_iff ((choice.isAvailable E visits ⟨state, none⟩).1 = true) isAvailable_iff

theorem isAvailable_eq (E : Engine σ) (visits : UInt32) (choice : Choice) (st : Stage σ) :
    choice.isAvailable E visits st = (decide (choice.Passes E visits st.engine),
      st.afterCalls E ((choice.guard? visits).toList.map .evaluate)) := by
  refine Prod.ext ?_ ?_
  · rw [Bool.eq_iff_iff, isAvailable_iff, decide_eq_true_iff]
  · simp only [isAvailable, guard?, ← gatesOpen_iff]
    split
    · cases choice.condition <;> rfl
    · rfl

end Choice

namespace Section

/-- The guards of the options whose gates are open, in order. -/
def guards (visits : UInt32) (choices : Fields Choice) : List String :=
  (choices.filter fun entry => entry.2.Open visits).filterMap fun entry => entry.2.condition

theorem guards_cons (visits : UInt32) (entry : String × Choice) (rest : Fields Choice) :
    guards visits (entry :: rest) = (entry.2.guard? visits).toList ++ guards visits rest := by
  unfold guards Choice.guard?
  by_cases hopen : entry.2.Open visits
  · cases hguard : entry.2.condition <;> simp [hopen, hguard]
  · simp [hopen]

/-- The options that pass, in order: each is tested where the guards before its own have left the
engine. -/
def listed (E : Engine σ) (visits : UInt32) (choices : Fields Choice) (state : σ) : List Choice :=
  ((choices.mapIdx fun index entry => (entry.2, decide (entry.2.Passes E visits
    (E.performAll ((guards visits (choices.take index)).map .evaluate) state)))).filter
      Prod.snd).map Prod.fst

theorem listed_cons (E : Engine σ) (visits : UInt32) (entry : String × Choice)
    (rest : Fields Choice) (state : σ) :
    listed E visits (entry :: rest) state =
      (if entry.2.Passes E visits state then [entry.2] else []) ++
        listed E visits rest
          (E.performAll ((entry.2.guard? visits).toList.map .evaluate) state) := by
  have hfirst : E.performAll ((guards visits ((entry :: rest).take 0)).map .evaluate) state =
      state := rfl
  have hguards (index : Nat) : E.performAll
      ((guards visits ((entry :: rest).take (index + 1))).map .evaluate) state =
        E.performAll ((guards visits (rest.take index)).map .evaluate)
          (E.performAll ((entry.2.guard? visits).toList.map .evaluate) state) := by
    rw [List.take_succ_cons, guards_cons, List.map_append, Engine.performAll_append]
  rw [listed, List.mapIdx_cons, hfirst, List.filter_cons]
  simp only [hguards, decide_eq_true_iff]
  split <;> rfl

/-- Finding out which options can be chosen evaluates the guards. -/
theorem availableOf_eq (E : Engine σ) (visits : UInt32) (choices : Fields Choice)
    (st : Stage σ) :
    availableOf E visits choices st = (listed E visits choices st.engine,
      st.afterCalls E ((guards visits choices).map .evaluate)) := by
  induction choices generalizing st with
  | nil => rfl
  | cons entry rest ih =>
    rw [availableOf, Choice.isAvailable_eq, ih, listed_cons, guards_cons, List.map_append,
      Stage.afterCalls_append]
    simp only [decide_eq_true_iff]
    split <;> rfl

/-- The options that pass are options of the section, in their order and each at most once. -/
theorem listed_sublist (E : Engine σ) (visits : UInt32) (choices : Fields Choice) (state : σ) :
    (listed E visits choices state).Sublist (choices.map Prod.snd) := by
  induction choices generalizing state with
  | nil => exact .slnil
  | cons entry rest ih =>
    rw [listed_cons, List.map_cons]
    split
    · exact (ih _).cons_cons _
    · exact (ih _).cons _

/-- The gates of every option that passes are open. -/
theorem open_of_listed {visits : UInt32} {choices : Fields Choice} {state : σ} {choice : Choice}
    (h : choice ∈ listed E visits choices state) : choice.Open visits := by
  have havailable := availableOf_eq E visits choices ⟨state, none⟩
  have hmem : choice ∈ (availableOf E visits choices ⟨state, none⟩).1 := havailable ▸ h
  obtain ⟨optionId, -, hopen⟩ := mem_availableOf hmem
  exact Choice.gatesOpen_iff.mp hopen

/-- What the engine is asked to find out what is on offer: first the guards, then the placeholders
in the texts of the options that pass. -/
def asked (E : Engine σ) (s : Section) (state : σ) : List EngineCall :=
  (guards s.visits s.choices).map .evaluate ++
    Stage.evaluations ((listed E s.visits s.choices state).flatMap Choice.placeholders)

/-- The ids that are listed are names of the section's options, in their order. -/
theorem ids_listed_sublist {choices : Fields Choice}
    (hids : ∀ entry ∈ choices, entry.2.id = entry.1) (E : Engine σ) (visits : UInt32)
    (state : σ) : ((listed E visits choices state).map Choice.id).Sublist choices.names := by
  have hnames : (choices.map Prod.snd).map Choice.id = choices.names := by
    rw [List.map_map]
    exact List.map_congr_left hids
  exact hnames ▸ (listed_sublist E visits choices state).map Choice.id

/-- In a section whose options stand under their ids, no id is listed twice. -/
theorem nodup_ids_listed {s : Section} (h : s.KeyedChoices) (E : Engine σ) (visits : UInt32)
    (state : σ) : ((listed E visits s.choices state).map Choice.id).Nodup :=
  (ids_listed_sublist h.ids E visits state).nodup h.nodup

end Section

namespace Story

/-- Options as they are shown from a stage on: each text is rendered where the texts before it have
left the engine. -/
def shown (E : Engine σ) (choices : List Choice) (st : Stage σ) : List Offer :=
  choices.mapIdx fun index choice =>
    ⟨choice.id, (Stage.render E choice.text (st.afterCalls E
      (Stage.evaluations ((choices.take index).flatMap Choice.placeholders)))).1⟩

theorem offersOf_eq_mapM (E : Engine σ) (choices : List Choice) (st : Stage σ) :
    offersOf E choices st =
      (choices.mapM fun choice => (choice.offer E : StateM (Stage σ) Offer)) st := by
  induction choices generalizing st with
  | nil => rfl
  | cons choice rest ih =>
    rw [offersOf, ih, List.mapM_cons]
    rfl

/-- Showing options renders their texts. -/
theorem offersOf_eq (E : Engine σ) (choices : List Choice) (st : Stage σ) :
    offersOf E choices st = (shown E choices st,
      st.afterCalls E (Stage.evaluations (choices.flatMap Choice.placeholders))) := by
  rw [offersOf_eq_mapM, Stage.mapM_afterCalls fun choice => Stage.evaluations choice.placeholders]
  · simp only [← Stage.evaluations_flatMap]
    rfl
  · intro choice st
    exact Stage.render_asks E choice.text st

theorem ids_shown (E : Engine σ) (choices : List Choice) (st : Stage σ) :
    (shown E choices st).map Offer.id = choices.map Choice.id := by
  rw [← ids_offersOf E choices st, offersOf_eq]

theorem offers_eq {story : Story σ} {id : String} {s : Section} (hs : story.section? id = some s) :
    story.offers E id =
      (.ok (shown E (Section.listed E s.visits s.choices story.stage.engine)
          (story.stage.afterCalls E ((Section.guards s.visits s.choices).map .evaluate))),
        { story with stage := story.stage.afterCalls E (s.asked E story.stage.engine) }) := by
  rw [Section.asked, Stage.afterCalls_append]
  simp only [offers, onSection, hs, onStage, Section.available, Section.availableOf_eq,
    offersOf_eq]

/-- What it comes to, to find out which options of a section are on offer. -/
structure Offering (E : Engine σ) (s : Section) (story : Story (Recorded σ))
    (result : Except Fault (List Offer) × Story (Recorded σ)) : Prop where
  /-- The options that pass are offered, with their texts rendered after all guards. -/
  offered : result.1 = .ok (shown E.recording
    (Section.listed E.recording s.visits s.choices story.stage.engine)
    (story.stage.afterCalls E.recording ((Section.guards s.visits s.choices).map .evaluate)))
  /-- The engine is asked for guards and then for placeholders, and for nothing else. Nothing else
  changes in the story: no count, no hidden option, and not the section that is bound. -/
  asked : result.2 = { story with stage := { story.stage with engine :=
    ⟨E.performAll (s.asked E.recording story.stage.engine) story.stage.engine.state,
      story.stage.engine.calls ++ s.asked E.recording story.stage.engine⟩ } }
  /-- They are options of the section in its order, each at most once. -/
  order : (Section.listed E.recording s.visits s.choices story.stage.engine).Sublist
    (s.choices.map Prod.snd)
  /-- In a story of a document with distinct names, no id is offered twice. -/
  distinct {document : Document} {engine : Recorded σ} (hd : document.Distinct)
    (hbook : (ofDocument document engine).SameBook story) :
    ((Section.listed E.recording s.visits s.choices story.stage.engine).map Choice.id).Nodup
  /-- An option for first visits and for others is never offered. -/
  never : ∀ choice ∈ Section.listed E.recording s.visits s.choices story.stage.engine,
    ¬ ("first" ∈ choice.flags ∧ "not_first" ∈ choice.flags)

/-- The options on offer, for every engine, story and section. -/
theorem offers_offering (E : Engine σ) {story : Story (Recorded σ)} {id : String} {s : Section}
    (hs : story.section? id = some s) : Offering E s story (story.offers E.recording id) where
  offered := by rw [offers_eq hs]
  asked := by
    rw [offers_eq hs]
    dsimp only
    rw [Stage.afterCalls_recording]
  order := Section.listed_sublist _ _ _ _
  distinct {document engine} hd hbook := by
    obtain ⟨spec, hspec, heq⟩ := hbook.spec hs
    refine Section.nodup_ids_listed ⟨?_, Section.ids_choices heq⟩ _ _ _
    rw [Section.names_choices heq]
    exact hd.options _ (Fields.mem_of_find? hspec)
  never := by
    rintro choice hlisted ⟨hfirst, hnotFirst⟩
    obtain ⟨-, hone, hnotOne⟩ := Section.open_of_listed hlisted
    exact hnotOne hnotFirst (hone hfirst)

/-- An engine whose states are numbers: every evaluation gives as many strokes and adds one. -/
def strokes : Engine Nat where
  isReady _ := true
  execute _ n := (.ok .nil, n)
  evaluate _ n := (.ok (.text (String.ofList (List.replicate n '|'))), n + 1)
  read _ _ := .ok .nil
  write _ _ n := (.ok (), n)
  readAll _ := []
  hasFunction _ _ := false
  define _ _ _ n := (.ok (), n)
  call _ _ n := (.ok .nil, n)
  addHelpers n := (.ok (), n)
  dice? _ := none
  setDice _ n := n

/-- A cellar on its first visit. -/
def cellar : Section where
  id := "cellar"
  title := none
  text := ""
  run := none
  vars := []
  choices :=
    [("lamp", ⟨"lamp", "Lamp", .goTo "cellar", some "oil", none, none, [], false⟩),
      ("rope", ⟨"rope", "Rope", .goTo "cellar", some "knot", none, none, [], true⟩),
      ("gate", ⟨"gate", "Gate \x7bbars\x7d", .restart, some "key", none, none, [], false⟩),
      ("trap", ⟨"trap", "Trap", .restart, none, none, none, ["first", "not_first"], false⟩),
      ("door", ⟨"door", "Door \x7bnails\x7d", .restart, none, none, none, ["first"], false⟩)]
  visits := 1

/-- A story in the cellar. -/
def inCellar : Story (Recorded Nat) where
  title := "Cellar"
  author := none
  version := none
  roster := []
  events := []
  hooks := []
  sections := [("cellar", cellar)]
  stage := ⟨⟨0, []⟩, none⟩

/-- The guard of the lamp is evaluated before that of the gate, and finds no stroke; both come
before the texts. -/
theorem offers_offering_cellar :
    inCellar.section? "cellar" = some cellar ∧
      Offering strokes cellar inCellar (inCellar.offers strokes.recording "cellar") ∧
      (inCellar.offers strokes.recording "cellar").1.toOption =
        some [⟨"gate", "Gate ||"⟩, ⟨"door", "Door |||"⟩] :=
  ⟨rfl, offers_offering strokes rfl, by decide +kernel⟩

end Story

end Gamebook
