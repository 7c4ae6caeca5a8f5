import Gamebook.Proofs.Fields
import Gamebook.Proofs.Stage

/-!
# What play does to a story

The progress of a player in a story is told by two look-ups: how often a section was entered, and
whether an option is hidden. For every operation of play this module says what becomes of them,
and that the operation leaves the rest of the book alone.

* `Story.visit_known`, `Story.executeOption_known` : operations on ids that name something.
* `Story.visitsOf_visit`, `Story.hiddenOf_spend` : what counts a visit or hides an option.
* `Story.offers_known`, `Story.text_known` : showing the options and the text only looks.
* `Story.SameBook` : nothing but progress and stage differs.
* `Story.Keyed` : every section stands under its own id.
-/

namespace Gamebook

variable {σ : Type} {E : Engine σ}

namespace Choice

/-- The option as it would be if it were not hidden. -/
def shown (choice : Choice) : Choice := { choice with hidden := false }

theorem shown_spent (choice : Choice) : choice.spent.shown = choice.shown := by
  unfold spent
  split <;> rfl

theorem hidden_spent (choice : Choice) :
    choice.spent.hidden = (choice.hidden || choice.isOnce) := by
  unfold spent
  split <;> simp [*]

end Choice

namespace Section

/-- The section after one of its options was executed. -/
def spend (optionId : String) (s : Section) : Section :=
  { s with choices := s.choices.modify optionId Choice.spent }

/-- The section as it would be with no visits and all its options shown. -/
def unplayed (s : Section) : Section :=
  { s with visits := 0, choices := s.choices.map (fun entry => (entry.1, entry.2.shown)) }

@[simp] theorem unplayed_counted (s : Section) : s.counted.unplayed = s.unplayed := rfl

@[simp] theorem unplayed_spend (optionId : String) (s : Section) :
    (s.spend optionId).unplayed = s.unplayed := by
  simp only [unplayed, spend, Fields.map_modify optionId Choice.shown_spent]

@[simp] theorem unplayed_withProgress (progress : Progress) (s : Section) :
    (s.withProgress progress).unplayed = s.unplayed := by
  simp only [unplayed, withProgress, List.map_map]
  rfl

@[simp] theorem id_counted (s : Section) : s.counted.id = s.id := rfl

/-- A visit adds one to the count, up to the greatest count. -/
theorem toNat_nextVisit (visits : UInt32) :
    (nextVisit visits).toNat = min 4294967295 (visits.toNat + 1) := by
  have hmax : visits = 4294967295 ↔ visits.toNat = 4294967295 := by
    rw [← UInt32.toNat_inj]
    rfl
  have hlt : visits.toNat < 4294967296 := visits.toNat_lt
  unfold nextVisit
  split
  · next h =>
    rw [hmax] at h
    omega
  · next h =>
    rw [hmax] at h
    rw [UInt32.toNat_add, show (1 : UInt32).toNat = 1 from rfl]
    omega

theorem nextVisit_ne_zero (visits : UInt32) : nextVisit visits ≠ 0 := by
  intro h
  have hnat := toNat_nextVisit visits
  rw [h, show (0 : UInt32).toNat = 0 from rfl] at hnat
  omega

end Section

namespace Story

variable {story : Story σ} {id : String} {s : Section}

/-! ## Progress -/

/-- How often a section was entered; nothing if there is no such section. -/
def visitsOf (id : String) (story : Story σ) : Option UInt32 :=
  (story.section? id).map Section.visits

/-- The change of a section counts for this section alone. -/
theorem visitsOf_modify (story : Story σ) (stage : Stage σ) (key : String) (f : Section → Section)
    (id : String) :
    visitsOf id { story with sections := story.sections.modify key f, stage } =
      if id = key then (story.section? id).map fun s => (f s).visits else story.visitsOf id := by
  rw [visitsOf, section?, Fields.find?_modify]
  split
  · rw [Option.map_map]
    rfl
  · rfl

/-- Whether an option of a section is hidden; nothing if there is no such option. -/
def hiddenOf (sectionId optionId : String) (story : Story σ) : Option Bool :=
  (story.section? sectionId).bind fun s => (s.choices.find? optionId).map Choice.hidden

theorem hasSection_iff : story.hasSection id = true ↔ ∃ s, story.section? id = some s := by
  rw [hasSection, Fields.has_eq_isSome, Option.isSome_iff_exists]
  rfl

/-- Every section stands under its own id. -/
def Keyed (story : Story σ) : Prop := ∀ id s, story.section? id = some s → s.id = id

/-- Nothing but the progress in sections and the stage differs. -/
structure SameBook (before after : Story σ) : Prop where
  rest : after = { before with sections := after.sections, stage := after.stage }
  sections : after.sections.map (fun entry => (entry.1, entry.2.unplayed)) =
    before.sections.map (fun entry => (entry.1, entry.2.unplayed))

namespace SameBook

theorem refl (story : Story σ) : SameBook story story := ⟨rfl, rfl⟩

theorem trans {first middle last : Story σ} (h₁ : SameBook first middle)
    (h₂ : SameBook middle last) : SameBook first last := by
  refine ⟨?_, h₂.sections.trans h₁.sections⟩
  rw [h₂.rest, h₁.rest]

theorem on_stage (story : Story σ) (stage : Stage σ) : SameBook story { story with stage } :=
  ⟨rfl, rfl⟩

/-- The change of one section that touches its progress alone. -/
theorem modify (story : Story σ) (stage : Stage σ) (id : String) {f : Section → Section}
    (hf : ∀ s, (f s).unplayed = s.unplayed) :
    SameBook story { story with sections := story.sections.modify id f, stage } :=
  ⟨rfl, Fields.map_modify id hf story.sections⟩

variable {before after : Story σ}

theorem roster (h : SameBook before after) : after.roster = before.roster := by rw [h.rest]

/-- The same sections are there, the same but for their progress. -/
theorem section? (h : SameBook before after) (id : String) :
    (after.section? id).map Section.unplayed = (before.section? id).map Section.unplayed := by
  have hfind (entries : Fields Section) :=
    Fields.find?_mapped (fun _ => Section.unplayed) id entries
  simp only [Story.section?]
  rw [← hfind, ← hfind, h.sections]

theorem known (h : SameBook before after) {id : String} {s : Section}
    (hs : before.section? id = some s) :
    ∃ s', after.section? id = some s' ∧ s'.unplayed = s.unplayed := by
  have hmap := h.section? id
  rwa [hs, Option.map_some, Option.map_eq_some_iff] at hmap

theorem names_sections (h : SameBook before after) :
    after.sections.names = before.sections.names := by
  have hnames (entries : Fields Section) := Fields.names_mapped (fun _ => Section.unplayed) entries
  rw [← hnames, h.sections, hnames]

theorem hasSection (h : SameBook before after) (id : String) :
    after.hasSection id = before.hasSection id := by
  have hsome := congrArg Option.isSome (h.section? id)
  rwa [Option.isSome_map, Option.isSome_map] at hsome

theorem keyed (h : SameBook before after) (hk : before.Keyed) : after.Keyed := by
  intro id s hs
  have hmap := h.section? id
  rw [hs, Option.map_some, eq_comm, Option.map_eq_some_iff] at hmap
  obtain ⟨s₀, hs₀, heq⟩ := hmap
  -- the id is not part of the progress
  have hid : s₀.unplayed.id = s.unplayed.id := congrArg Section.id heq
  change s₀.id = s.id at hid
  rw [← hid, hk id s₀ hs₀]

end SameBook

/-! ## Entering sections -/

theorem visit_known (h : story.section? id = some s) :
    story.visit E id = (.ok (),
      { story with
        sections := story.sections.modify id Section.counted
        stage := s.counted.enter E story.stage }) := by
  simp only [visit, onSection, h]

theorem visit_unknown (h : story.section? id = none) :
    story.visit E id = (.error (.sectionNotFound id), story) := by
  simp only [visit, onSection, h]

theorem sections_visit (h : story.section? id = some s) :
    (story.visit E id).2.sections = story.sections.modify id Section.counted := by
  rw [visit_known h]

theorem sameBook_visit (E : Engine σ) (id : String) (story : Story σ) :
    SameBook story (story.visit E id).2 := by
  cases h : story.section? id with
  | none => rw [visit_unknown h]; exact .refl story
  | some s => rw [visit_known h]; exact .modify story _ id Section.unplayed_counted

/-- A visit is counted for the section that is entered and for no other. -/
theorem visitsOf_visit (h : story.section? id = some s) (other : String) :
    (story.visit E id).2.visitsOf other =
      if other = id then (story.visitsOf other).map Section.nextVisit
      else story.visitsOf other := by
  rw [visit_known h, visitsOf_modify]
  split
  · rw [visitsOf, Option.map_map]
    rfl
  · rfl

/-- A visit hides and shows no option. -/
theorem hiddenOf_visit (h : story.section? id = some s) (sectionId optionId : String) :
    (story.visit E id).2.hiddenOf sectionId optionId = story.hiddenOf sectionId optionId := by
  rw [visit_known h, hiddenOf, section?, Fields.find?_modify]
  split
  · rw [hiddenOf, section?, Option.bind_map]
    rfl
  · rfl

/-- The section that is entered is bound. -/
theorem bound_visit (hk : story.Keyed) (h : story.section? id = some s) :
    (story.visit E id).2.stage.bound = some id := by
  rw [visit_known h, Section.bound_enter, Section.id_counted, hk id s h]

/-! ## Showing options -/

/-- The options of a section, as they are shown. -/
theorem offers_known (h : story.section? id = some s) :
    ∃ offers stage, story.offers E id = (.ok offers, { story with stage }) ∧
      Stage.Looks E story.stage stage := by
  simp only [offers, onSection, h, onStage]
  exact ⟨_, _, rfl, (s.looks_available _).trans (looks_offersOf _ _)⟩

theorem text_known (h : story.section? id = some s) :
    ∃ text stage, story.text E id = (.ok text, { story with stage }) ∧
      Stage.Looks E story.stage stage := by
  simp only [text, onSection, h, onStage]
  exact ⟨_, _, rfl, Stage.looks_render _ _⟩

/-! ## Executing options -/

theorem executeOption_known {sectionId optionId : String} {choice : Choice}
    (hs : story.section? sectionId = some s) (hc : s.choices.find? optionId = some choice) :
    story.executeOption E sectionId optionId =
      (.ok (choice.execute E story.stage).1,
        { story with
          sections := story.sections.modify sectionId (Section.spend optionId)
          stage := (choice.execute E story.stage).2 }) := by
  simp only [executeOption, hs, hc]
  rfl

theorem executeOption_unknown {sectionId optionId : String}
    (hs : story.section? sectionId = some s) (hc : s.choices.find? optionId = none) :
    story.executeOption E sectionId optionId =
      (.error (.optionNotFound optionId sectionId), story) := by
  simp only [executeOption, hs, hc]

/-- Executing an option counts no visit. -/
theorem visitsOf_spend (story : Story σ) (stage : Stage σ) (sectionId optionId other : String) :
    visitsOf other { story with
      sections := story.sections.modify sectionId (Section.spend optionId), stage } =
      story.visitsOf other := by
  rw [visitsOf_modify]
  split <;> rfl

/-- An option that can be executed once only is hidden once it was executed; no other option is
hidden or shown. -/
theorem hiddenOf_spend (story : Story σ) (stage : Stage σ)
    {sectionId optionId : String} {choice : Choice} (hs : story.section? sectionId = some s)
    (hc : s.choices.find? optionId = some choice) (other otherOption : String) :
    hiddenOf other otherOption { story with
      sections := story.sections.modify sectionId (Section.spend optionId), stage } =
      if other = sectionId ∧ otherOption = optionId then some (choice.hidden || choice.isOnce)
      else story.hiddenOf other otherOption := by
  rw [hiddenOf, section?, Fields.find?_modify]
  by_cases hother : other = sectionId
  · subst hother
    rw [if_pos rfl]
    change ((story.section? other).map (Section.spend optionId)).bind _ = _
    rw [hs, Option.map_some, Option.bind_some, Section.spend, Fields.find?_modify]
    by_cases hoption : otherOption = optionId
    · subst hoption
      rw [if_pos rfl, if_pos ⟨rfl, rfl⟩, hc, Option.map_some, Option.map_some,
        Choice.hidden_spent]
    · rw [if_neg hoption, if_neg (fun h => hoption h.2), hiddenOf, hs, Option.bind_some]
  · rw [if_neg hother, if_neg (fun h => hother h.1)]
    rfl

/-! ## Events -/

/-- An event handler moves the player nowhere. -/
theorem trigger_eq (E : Engine σ) (eventId : String) (args : List Value) (story : Story σ) :
    ∃ message stage, story.trigger E eventId args = (message, { story with stage }) ∧
      stage.bound = story.stage.bound := by
  unfold trigger
  split
  · simp only [onStage]
    refine ⟨_, _, rfl, ?_⟩
    split <;> exact Stage.bound_call _ _ _
  · exact ⟨_, story.stage, rfl, rfl⟩

/-! ## Saved variables -/

/-- The declared variables are read, and no others. -/
theorem find?_snapshot (E : Engine σ) (story : Story σ) (name : String) :
    (story.snapshot E).find? name =
      if name ∈ story.roster then some (Stage.valueOf E name story.stage) else none := by
  rw [snapshot, Fields.find?_sorted_last, ← List.map_reverse,
    Fields.find?_table (fun name => Stage.valueOf E name story.stage)]
  simp only [List.mem_reverse]

end Story

end Gamebook
