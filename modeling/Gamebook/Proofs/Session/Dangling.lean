import Gamebook.Proofs.Session.Belonging
import Gamebook.Proofs.Story.Executing
import Mathlib.Data.List.Flatten

/-!
# Options that lead nowhere

An author can ask which options have targets that name no section. The answer is worked out from the
text alone; whether a player is stopped there is found out by playing: by what the text of the
target means, by what the effect of the option does to it, and by what following it does. Both agree
wherever the effect leaves the target alone.

* `Story.SameBook.mem_danglingTargets` : the options that are listed.
* `Story.ids_danglingTargets` : they are listed in the order of the text.
* `Session.blocks_iff` : the options at which a player is stopped.
* `Source.dangling_agrees` : these are the same.
-/

namespace Gamebook

variable {σ : Type} {E : Engine σ}

/-- The section that a target names, if it is none of those that are known. -/
def Target.missing? (known : String → Bool) : Target → Option String
  | restart => none
  | goTo id => if known id then none else some id

theorem Target.missing?_eq_some_iff {known : String → Bool} {target : Target} {id : String} :
    target.missing? known = some id ↔ target = .goTo id ∧ known id = false := by
  cases target with
  | restart => simp [missing?]
  | goTo other =>
    rw [missing?, goTo.injEq]
    constructor
    · intro h
      split at h
      · cases h
      · next hknown =>
        obtain rfl : other = id := Option.some.inj h
        exact ⟨rfl, Bool.eq_false_iff.mpr hknown⟩
    · rintro ⟨rfl, hknown⟩
      rw [hknown]
      rfl

/-! ## What is listed -/

/-- The ids of all options with those of their sections, in the order of the text. -/
def Document.optionIds (document : Document) : List (String × String) :=
  document.sections.flatMap fun entry =>
    entry.2.options.names.map fun optionId => (entry.1, optionId)

/-- No option stands there twice. -/
theorem Document.Distinct.nodup_optionIds {document : Document} (h : document.Distinct) :
    document.optionIds.Nodup := by
  refine List.pairwise_flatMap.mpr ⟨fun entry hmem => ?_, ?_⟩
  · exact List.pairwise_map.mpr ((h.options entry hmem).imp fun hne heq =>
      hne (Prod.mk.inj heq).2)
  · refine (List.pairwise_map.mp h.sections).imp fun hne a ha b hb heq => ?_
    obtain ⟨_, -, rfl⟩ := List.mem_map.mp ha
    obtain ⟨_, -, rfl⟩ := List.mem_map.mp hb
    exact hne (Prod.mk.inj heq).1

namespace Story

variable {story later : Story σ}

theorem danglingTargets_eq (story : Story σ) :
    story.danglingTargets = story.sections.flatMap fun entry =>
      entry.2.choices.filterMap fun option =>
        (option.2.target.missing? story.hasSection).map fun target =>
          (entry.1, option.1, target) := by
  refine congrArg (story.sections.flatMap ·) (funext fun entry => ?_)
  refine congrArg (entry.2.choices.filterMap ·) (funext fun option => ?_)
  obtain ⟨optionId, choice⟩ := option
  dsimp only
  cases choice.target with
  | restart => rfl
  | goTo target =>
    rw [Target.missing?, apply_ite (Option.map _)]
    rfl

/-- The list depends on nothing that changes in play. -/
theorem SameBook.danglingTargets (h : story.SameBook later) :
    later.danglingTargets = story.danglingTargets := by
  have hunplayed : ∀ other : Story σ, other.danglingTargets =
      (other.sections.map fun entry => (entry.1, entry.2.unplayed)).flatMap fun entry =>
        entry.2.choices.filterMap fun option =>
          (option.2.target.missing? other.hasSection).map fun target =>
            (entry.1, option.1, target) := by
    intro other
    rw [danglingTargets_eq, List.flatMap_map]
    refine congrArg (other.sections.flatMap ·) (funext fun entry => ?_)
    rw [Section.unplayed, List.filterMap_map]
    rfl
  have hknown : (fun id => later.hasSection id) = fun id => story.hasSection id :=
    funext h.hasSection
  rw [hunplayed, hunplayed story, h.sections, hknown]

/-- An option is listed with the section that it names and that is not there. -/
theorem mem_danglingTargets {sectionId optionId target : String} :
    (sectionId, optionId, target) ∈ story.danglingTargets ↔
      ∃ s choice, (sectionId, s) ∈ story.sections ∧ (optionId, choice) ∈ s.choices ∧
        choice.target = .goTo target ∧ story.hasSection target = false := by
  rw [danglingTargets_eq]
  simp only [List.mem_flatMap, List.mem_filterMap, Option.map_eq_some_iff,
    Target.missing?_eq_some_iff, Prod.mk.injEq]
  constructor
  · rintro ⟨⟨_, s⟩, hs, ⟨_, choice⟩, hchoice, _, htarget, rfl, rfl, rfl⟩
    exact ⟨s, choice, hs, hchoice, htarget⟩
  · rintro ⟨s, choice, hs, hchoice, htarget⟩
    exact ⟨_, hs, _, hchoice, target, htarget, rfl, rfl, rfl⟩

/-- In a story of a document an option is listed exactly if the section that it names is not
there. -/
theorem SameBook.mem_danglingTargets {document : Document} {engine : σ}
    (h : (ofDocument document engine).SameBook story) (hd : document.Distinct)
    {sectionId optionId target : String} :
    (sectionId, optionId, target) ∈ story.danglingTargets ↔
      ∃ s choice, story.section? sectionId = some s ∧ s.choices.find? optionId = some choice ∧
        choice.target = .goTo target ∧ story.hasSection target = false := by
  have hnodup : story.sections.names.Nodup := by
    rw [h.names_sections, names_ofDocument]
    exact hd.sections
  rw [Story.mem_danglingTargets]
  constructor
  · rintro ⟨s, choice, hs, hchoice, htarget⟩
    have hsection : story.section? sectionId = some s := Fields.find?_of_mem hnodup hs
    obtain ⟨spec, hspec, heq⟩ := h.spec hsection
    have hchoices : s.choices.names.Nodup := by
      rw [Section.names_choices heq]
      exact hd.options _ (Fields.mem_of_find? hspec)
    exact ⟨s, choice, hsection, Fields.find?_of_mem hchoices hchoice, htarget⟩
  · rintro ⟨s, choice, hs, hchoice, htarget⟩
    exact ⟨s, choice, Fields.mem_of_find? hs, Fields.mem_of_find? hchoice, htarget⟩

/-- What a part of a list is turned into is part of what the whole list is. -/
theorem sublist_filterMap {α β γ : Type} {f : α → Option β} {g : β → γ} {h : α → γ}
    (hfg : ∀ a b, f a = some b → g b = h a) (l : List α) :
    ((l.filterMap f).map g).Sublist (l.map h) := by
  induction l with
  | nil => exact .slnil
  | cons a rest ih =>
    rw [List.filterMap_cons, List.map_cons]
    cases hfa : f a with
    | none => exact .cons _ ih
    | some b =>
      rw [List.map_cons, hfg a b hfa]
      exact .cons_cons _ ih

/-- The ids of all options with those of their sections. -/
def optionIds (story : Story σ) : List (String × String) :=
  story.sections.flatMap fun entry =>
    entry.2.choices.names.map fun optionId => (entry.1, optionId)

theorem optionIds_ofDocument (document : Document) (engine : σ) :
    (ofDocument document engine).optionIds = document.optionIds := by
  rw [optionIds, ofDocument, List.flatMap_map]
  refine congrArg (document.sections.flatMap ·) (funext fun entry => ?_)
  exact congrArg (List.map _) (Section.names_choices rfl)

/-- The options are listed in the order in which they stand in their sections. -/
theorem ids_danglingTargets (story : Story σ) :
    (story.danglingTargets.map fun entry => (entry.1, entry.2.1)).Sublist story.optionIds := by
  rw [danglingTargets_eq, List.map_flatMap]
  refine List.Sublist.flatMap_right _ fun entry _ => ?_
  rw [Fields.names, List.map_map]
  refine sublist_filterMap (fun option listed hlisted => ?_) _
  obtain ⟨target, -, rfl⟩ := Option.map_eq_some_iff.mp hlisted
  rfl

end Story

/-! ## Where a player is stopped -/

namespace Session

variable {session : Session σ} {s : Section} {optionId : String} {choice : Choice}

/-- Following a target stops the player if it names a section that is not there, and only then. -/
theorem follow_blocked_iff {target : Target} {fault : Fault} :
    (session.follow E target).1 = .ok (.blocked fault) ↔
      ∃ id, target = .goTo id ∧ session.story.hasSection id = false ∧
        fault = .sectionNotFound id := by
  cases target with
  | restart =>
    rw [follow_restart]
    cases session.source.later.load E <;> simp
  | goTo id =>
    cases hsection : session.story.section? id with
    | none =>
      have hnone : session.story.hasSection id = false := congrArg Option.isSome hsection
      rw [follow_unknown hsection]
      constructor
      · rintro ⟨⟩
        exact ⟨id, rfl, hnone, rfl⟩
      · rintro ⟨_, ⟨⟩, -, rfl⟩
        rfl
    | some s =>
      have hsome : session.story.hasSection id = true := congrArg Option.isSome hsection
      rw [follow_known hsection]
      simp [hsome]

/-- Choosing the option leaves the player where they are, for this reason. -/
def Blocks (E : Engine σ) (session : Session σ) (optionId : String) (fault : Fault) : Prop :=
  ∃ followed, (session.choose E optionId).1 = .ok followed ∧
    followed.navigation = .blocked fault

/-- An option on offer that its effect does not redirect stops the player if its target names a
section that is not there, and only then. -/
theorem blocks_iff (hs : session.story.section? session.current = some s)
    (hc : s.choices.find? optionId = some choice) (ho : optionId ∈ session.offeredIds E)
    (hx : (choice.execute E (session.stageOffered E)).1.redirected = false) (fault : Fault) :
    session.Blocks E optionId fault ↔ ∃ target, choice.target = .goTo target ∧
      session.story.hasSection target = false ∧ fault = .sectionNotFound target := by
  have htarget : (choice.execute E (session.stageOffered E)).1.target = choice.target := by
    rw [Choice.target_execute, hx]
    rfl
  rcases hexecuted : choice.execute E (session.stageOffered E) with ⟨outcome, stage⟩
  rw [hexecuted] at htarget
  have hknown : ∀ id, (session.executed optionId stage).story.hasSection id =
      session.story.hasSection id := fun id =>
    Fields.has_modify session.current id _ session.story.sections
  have hfollow : session.Blocks E optionId fault ↔
      ((session.executed optionId stage).follow E choice.target).1 = .ok (.blocked fault) := by
    rw [Blocks, choose_offered hs hc ho hexecuted, htarget]
    rcases (session.executed optionId stage).follow E choice.target with ⟨⟨⟩ | navigation, after⟩
    · simp
    · simp
  rw [hfollow, follow_blocked_iff]
  simp only [hknown]

/-- A session that is opened from a text and played stays with the sections of the story that is
loaded from it. -/
theorem Opened.sameBook_run {session : Session σ} (h : Opened E session) {source : Source σ}
    {story : Story σ} (htext : session.source.text = source.text)
    (hload : source.load E = .ok story) (steps : List Step) :
    story.SameBook (session.run E steps).story := by
  obtain ⟨document, loaded, hdocument, -, rfl⟩ := Source.load_ok hload
  obtain ⟨engine, hbook⟩ :=
    ((Belongs.closed E document).run (h.belongs (htext ▸ hdocument)) steps).book
  exact (Story.SameBook.on_stage _ (Story.ofDocument document engine).stage).trans hbook

end Session

/-- The list of options that lead nowhere agrees with play. -/
structure DanglingAgrees (E : Engine σ) (text : String) (document : Document) (story : Story σ) :
    Prop where
  /-- The options are listed in the order of the text. -/
  ordered : (story.danglingTargets.map fun entry => (entry.1, entry.2.1)).Sublist
    document.optionIds
  once : (story.danglingTargets.map fun entry => (entry.1, entry.2.1)).Nodup
  /-- They are listed with their targets. -/
  targets : ∀ sectionId optionId target,
    (sectionId, optionId, target) ∈ story.danglingTargets ↔
      ∃ s choice, story.section? sectionId = some s ∧ s.choices.find? optionId = some choice ∧
        choice.target = .goTo target ∧ story.hasSection target = false
  /-- Play changes neither the sections nor the list. -/
  played : ∀ session : Session σ, Session.Opened E session → session.source.text = text →
    ∀ steps, story.SameBook (session.run E steps).story ∧
      (session.run E steps).story.danglingTargets = story.danglingTargets
  /-- A player is stopped at the options that are listed, by the section that is not there. -/
  blocks : ∀ (session : Session σ) (s : Section) (optionId : String) (choice : Choice),
    story.SameBook session.story → session.story.section? session.current = some s →
    s.choices.find? optionId = some choice → optionId ∈ session.offeredIds E →
    (choice.execute E (session.stageOffered E)).1.redirected = false →
    ((∃ target, (session.current, optionId, target) ∈ story.danglingTargets) ↔
      ∃ fault, session.Blocks E optionId fault ∧ fault.code = "NAV_SECTION_NOT_FOUND") ∧
    ∀ target, (session.current, optionId, target) ∈ story.danglingTargets ↔
      session.Blocks E optionId (.sectionNotFound target)

namespace Source

/-- The options that are listed as leading nowhere are those at which a player is stopped, whenever
they are on offer and their effect does not redirect the player. -/
theorem dangling_agrees {source : Source σ} {story : Story σ} (hload : source.load E = .ok story) :
    ∃ document, Document.ofText source.text = .ok document ∧
      DanglingAgrees E source.text document story := by
  obtain ⟨document, engine, hdocument, -, hstory⟩ := load_ok hload
  have hdistinct := Document.distinct_ofText hdocument
  have hbook : (Story.ofDocument document engine).SameBook story := hstory ▸ .refl _
  have hordered : (story.danglingTargets.map fun entry => (entry.1, entry.2.1)).Sublist
      document.optionIds := by
    rw [← Story.optionIds_ofDocument document engine, ← hstory]
    exact story.ids_danglingTargets
  refine ⟨document, hdocument, hordered, hdistinct.nodup_optionIds.sublist hordered,
    fun _ _ _ => hbook.mem_danglingTargets hdistinct, fun session hopened htext steps => ?_,
    fun session s optionId choice hsame hs hc ho hx => ?_⟩
  · have hsame := hopened.sameBook_run htext hload steps
    exact ⟨hsame, hsame.danglingTargets⟩
  · have hblocks := Session.blocks_iff hs hc ho hx
    have hlisted : ∀ target, (session.current, optionId, target) ∈ story.danglingTargets ↔
        choice.target = .goTo target ∧ session.story.hasSection target = false := by
      intro target
      rw [← hsame.danglingTargets, (hbook.trans hsame).mem_danglingTargets hdistinct]
      constructor
      · rintro ⟨s', choice', hs', hc', htarget⟩
        obtain rfl : s' = s := Option.some.inj (hs'.symm.trans hs)
        obtain rfl : choice' = choice := Option.some.inj (hc'.symm.trans hc)
        exact htarget
      · exact fun htarget => ⟨s, choice, hs, hc, htarget⟩
    have hstops : ∀ target, (session.current, optionId, target) ∈ story.danglingTargets ↔
        session.Blocks E optionId (.sectionNotFound target) := by
      intro target
      rw [hlisted, hblocks]
      constructor
      · exact fun ⟨htarget, hnone⟩ => ⟨target, htarget, hnone, rfl⟩
      · rintro ⟨_, htarget, hnone, ⟨⟩⟩
        exact ⟨htarget, hnone⟩
    refine ⟨⟨fun ⟨target, hmem⟩ => ?_, fun ⟨fault, hfault, _⟩ => ?_⟩, hstops⟩
    · exact ⟨_, (hstops target).mp hmem, rfl⟩
    · obtain ⟨target, -, -, rfl⟩ := (hblocks fault).mp hfault
      exact ⟨target, (hstops target).mpr hfault⟩

/-- A hall with a door to a section that is not there, a way around, and two ways out. -/
def doorToNowhere : Source Script.Interpreter :=
  ⟨"sections: \x7bhall: \x7boptions: \x7bdoor: [Leave, attic], stay: [Stay, self], " ++
    "quit: [Quit, restart], down: [Down, cellar]\x7d\x7d\x7d", .seeded 1⟩

/-- The doors to the attic and to the cellar are listed in their order, and a player who tries the
first one is stopped. -/
theorem doors_listed :
    ∃ document story session, doorToNowhere.load Script.engine = .ok story ∧
      DanglingAgrees Script.engine doorToNowhere.text document story ∧
      story.danglingTargets = [("hall", "door", "attic"), ("hall", "down", "cellar")] ∧
      Session.create Script.engine doorToNowhere none = .ok session ∧
      session.Blocks Script.engine "door" (.sectionNotFound "attic") := by
  have hloads : (doorToNowhere.load Script.engine).toOption.any (fun story =>
      decide (story.danglingTargets = [("hall", "door", "attic"), ("hall", "down", "cellar")])) =
        true := by
    decide +kernel
  have hplays : (Session.create Script.engine doorToNowhere none).toOption.any (fun session =>
      decide (session.current = "hall") &&
      decide ("door" ∈ session.offeredIds Script.engine) &&
      (session.story.section? session.current).any fun s =>
        (s.choices.find? "door").any fun choice =>
          !(choice.execute Script.engine (session.stageOffered Script.engine)).1.redirected) =
        true := by
    decide +kernel
  obtain ⟨story, hstory, hlisted⟩ := (Option.any_eq_true ..).mp hloads
  obtain ⟨session, hsession, hplays⟩ := (Option.any_eq_true ..).mp hplays
  simp only [Bool.and_eq_true, decide_eq_true_eq, Option.any_eq_true, Bool.not_eq_true'] at hplays
  obtain ⟨⟨hcurrent, hoffered⟩, s, hs, choice, hc, hx⟩ := hplays
  have hlisted := of_decide_eq_true hlisted
  have hload := toOption_eq_some hstory
  have hcreate := toOption_eq_some hsession
  obtain ⟨document, -, hagrees⟩ := dangling_agrees hload
  have htext : session.source.text = doorToNowhere.text := by
    obtain ⟨created, s, -, -, rfl⟩ := Session.create_ok hcreate
    rfl
  have hsame := (hagrees.played session (.created hcreate) htext []).1
  have hblocks := (hagrees.blocks session s "door" choice hsame hs hc hoffered hx).2 "attic"
  refine ⟨document, story, session, hload, hagrees, hlisted, hcreate, hblocks.mp ?_⟩
  rw [hcurrent, hlisted]
  exact List.mem_cons_self

end Source

end Gamebook
