import Gamebook.Proofs.Session.Dangling
import Mathlib.Data.List.TakeWhile

/-!
# Options that name a section

An author writes the id of a section as the target of an option. The blanks around a target do not
count, but ids keep those they are written with: the option leads to the section unless its id
begins or ends with a blank.

* `Document.not_isBlank_of_check` : the ids of sections are not blank.
* `Target.resolve_eq_goTo_iff` : when a text that is written as a target names the section of the
  same id.
* `Story.LeadsTo` : an option leads to a section, by its target, by the list of the options that
  lead nowhere, and in play.
* `Story.leadsTo_iff` : when an option leads to the section that is written as its target.
-/

namespace Gamebook

variable {σ : Type} {E : Engine σ}

/-! ## Targets -/

/-- What is left of a text without the blanks around it is empty only if there is nothing else. -/
theorem Text.isBlank_of_trim {s : String} (h : trim s = "") : isBlank s = true := by
  have hdrop : dropEndWhile isBlankChar (s.toList.dropWhile isBlankChar) = [] := by
    rw [← String.toList_ofList (l := dropEndWhile _ _)]
    exact congrArg String.toList h
  rw [dropEndWhile, List.reverse_eq_nil_iff, List.dropWhile_eq_nil_iff] at hdrop
  refine List.all_eq_true.mpr fun c hc => ?_
  rw [← List.takeWhile_append_dropWhile (p := isBlankChar) (l := s.toList)] at hc
  rcases List.mem_append.mp hc with htake | hrest
  · exact List.mem_takeWhile_imp htake
  · exact hdrop c (List.mem_reverse.mpr hrest)

namespace Target

theorem ofText_eq_goTo_iff {text id : String} :
    ofText text = .goTo id ↔ text = id ∧ id ≠ "restart" := by
  by_cases h : text = "restart"
  · rw [ofText, if_pos h]
    exact iff_of_false (fun h => nomatch h) fun ⟨heq, hne⟩ => hne (heq.symm.trans h)
  · rw [ofText, if_neg h, goTo.injEq]
    exact ⟨fun heq => ⟨heq, heq ▸ h⟩, And.left⟩

/-- What a target means that is not blank. -/
theorem resolve_some {goto : String} (hblank : Text.isBlank goto = false) (owner : String) :
    resolve (some goto) owner =
      .ofText (if Text.trim goto = "self" then owner else Text.trim goto) := by
  have hne : Text.trim goto ≠ "" := fun h => by
    rw [Text.isBlank_of_trim h] at hblank
    cases hblank
  rw [resolve, Option.getD_some]
  simp only [hne, false_or]

/-- A text names the section of this id if there are no blanks around it, or if it is the section
itself, named by `self` with blanks around it. -/
theorem resolve_eq_goTo_iff {goto owner : String} (hblank : Text.isBlank goto = false)
    (hself : goto ≠ "self") (hrestart : goto ≠ "restart") :
    resolve (some goto) owner = .goTo goto ↔
      Text.trim goto = goto ∨ Text.trim goto = "self" ∧ owner = goto := by
  rw [resolve_some hblank, ofText_eq_goTo_iff]
  by_cases htrim : Text.trim goto = "self"
  · have hne : "self" ≠ goto := hself.symm
    simp [htrim, hne, hrestart]
  · simp [htrim, hrestart]

end Target

/-! ## What the document says -/

/-- The target that is written for an option. -/
def OptionSpec.goto? : OptionSpec → Option String
  | .pair _ goto => some goto
  | .detailed detail => detail.goto

theorem Choice.target_ofSpec (id owner : String) (option : OptionSpec) :
    (Choice.ofSpec id owner option).target = .resolve option.goto? owner := by
  cases option with
  | pair text goto => rw [Choice.ofSpec, OptionSpec.goto?]
  | detailed detail => rw [Choice.ofSpec, OptionSpec.goto?]

theorem Fields.find?_of_has {α : Type} {name : String} {entries : Fields α}
    (h : entries.has name = true) : ∃ value, entries.find? name = some value :=
  Option.isSome_iff_exists.mp ((Fields.has_eq_isSome name entries).symm.trans h)

/-- A loop that is not left early and that succeeds has succeeded at every item. -/
theorem forIn_ok {ε α : Type} {step : α → Except ε (ForInStep Unit)} {items : List α} {u : Unit}
    (h : forIn items () (fun item _ => step item) = .ok u)
    (hgoes : ∀ item, step item ≠ .ok (.done ())) :
    ∀ item ∈ items, step item = .ok (.yield ()) := by
  induction items with
  | nil => exact fun _ hmem => nomatch hmem
  | cons item rest ih =>
    rw [List.forIn_cons] at h
    obtain ⟨next, hstep, h⟩ := bind_ok h
    cases next with
    | done u => exact absurd hstep (hgoes item)
    | «yield» u => exact List.forall_mem_cons.mpr ⟨hstep, ih h⟩

/-- No section of a document that passes the check has a blank id. -/
theorem Document.not_isBlank_of_check {document : Document} (h : document.check = .ok ())
    {id : String} (hid : document.sections.has id = true) : Text.isBlank id = false := by
  -- the sections come after the names
  unfold check at h
  split at h
  · cases h
  obtain ⟨u, -, h⟩ := bind_ok h
  obtain ⟨u, -, h⟩ := bind_ok h
  obtain ⟨u, -, h⟩ := bind_ok h
  obtain ⟨u, hsections, -⟩ := bind_ok h
  obtain ⟨spec, hspec⟩ := Fields.find?_of_has hid
  have hstep := forIn_ok hsections ?_ (id, spec) (Fields.mem_of_find? hspec)
  · refine Bool.eq_false_iff.mpr fun hblank => ?_
    dsimp only at hstep
    rw [if_pos hblank] at hstep
    cases hstep
  · rintro ⟨sectionId, spec⟩ hdone
    dsimp only at hdone
    split at hdone
    · cases hdone
    · obtain ⟨u, -, hdone⟩ := bind_ok hdone
      cases hdone

/-! ## What is loaded -/

/-- Every option of the document is there, with the target that is written for it. -/
theorem Story.SameBook.target {document : Document} {engine : σ} {story : Story σ}
    (h : (Story.ofDocument document engine).SameBook story) {owner optionId : String}
    {spec : SectionSpec} {option : OptionSpec} (howner : document.sections.find? owner = some spec)
    (hoption : spec.options.find? optionId = some option) :
    ∃ s choice, story.section? owner = some s ∧ s.choices.find? optionId = some choice ∧
      choice.target = .resolve option.goto? owner := by
  have hsection : (Story.ofDocument document engine).section? owner =
      some (Section.ofSpec owner spec) := by
    rw [Story.section?_ofDocument, howner]
    rfl
  obtain ⟨s, hs, hunplayed⟩ := h.known hsection
  have hshown (s : Section) : Fields.find? optionId s.unplayed.choices =
      (s.choices.find? optionId).map Choice.shown :=
    Fields.find?_mapped (fun _ => Choice.shown) optionId s.choices
  have hwritten : Fields.find? optionId (Section.ofSpec owner spec).choices =
      some (Choice.ofSpec optionId owner option) := by
    have hmapped := Fields.find?_mapped (fun optionId => Choice.ofSpec optionId owner) optionId
      spec.options
    rw [hoption] at hmapped
    exact hmapped
  have hchoice := hshown s
  rw [hunplayed, hshown, hwritten, Option.map_some, eq_comm, Option.map_eq_some_iff] at hchoice
  obtain ⟨choice, hc, heq⟩ := hchoice
  -- the target is not part of the progress
  have htarget : choice.shown.target = (Choice.ofSpec optionId owner option).shown.target :=
    congrArg Choice.target heq
  exact ⟨s, choice, hs, hc, htarget.trans (Choice.target_ofSpec optionId owner option)⟩

/-- An option that is there has the target that is written for it. -/
theorem Story.SameBook.target_eq {document : Document} {engine : σ} {story : Story σ}
    (h : (Story.ofDocument document engine).SameBook story) {owner optionId : String}
    {spec : SectionSpec} {option : OptionSpec} (howner : document.sections.find? owner = some spec)
    (hoption : spec.options.find? optionId = some option) {s : Section} {choice : Choice}
    (hs : story.section? owner = some s) (hc : s.choices.find? optionId = some choice) :
    choice.target = .resolve option.goto? owner := by
  obtain ⟨s', choice', hs', hc', htarget⟩ := h.target howner hoption
  obtain rfl : s' = s := Option.some.inj (hs'.symm.trans hs)
  obtain rfl : choice' = choice := Option.some.inj (hc'.symm.trans hc)
  exact htarget

/-! ## Where an option leads -/

/-- Choosing an option on offer whose target is a section enters it, unless the effect redirects. -/
theorem Session.enters {session : Session σ} {s : Section} {optionId : String} {choice : Choice}
    (hs : session.story.section? session.current = some s)
    (hc : s.choices.find? optionId = some choice) (ho : optionId ∈ session.offeredIds E)
    (hx : (choice.execute E (session.stageOffered E)).1.redirected = false) {id : String}
    (htarget : choice.target = .goTo id) (hid : session.story.hasSection id = true) :
    ∃ followed, (session.choose E optionId).1 = .ok followed ∧
      followed.navigation = .entered id ∧ followed.redirected = false ∧
      (session.choose E optionId).2.current = id := by
  have hfinal : (choice.execute E (session.stageOffered E)).1.target = .goTo id := by
    rw [Choice.target_execute, hx, htarget]
    rfl
  rcases hexecuted : choice.execute E (session.stageOffered E) with ⟨outcome, stage⟩
  rw [hexecuted] at hfinal hx
  have hknown : (session.executed optionId stage).story.hasSection id = true :=
    (Fields.has_modify session.current id _ session.story.sections).trans hid
  obtain ⟨entered, hentered⟩ := Story.hasSection_iff.mp hknown
  rw [choose_offered hs hc ho hexecuted, hfinal, follow_known hentered]
  exact ⟨_, rfl, rfl, hx, rfl⟩

namespace Story

/-- The option of the section leads to the section with this id. -/
structure LeadsTo (E : Engine σ) (story : Story σ) (owner optionId id : String) : Prop where
  /-- This section is its target. -/
  target : ∃ s choice, story.section? owner = some s ∧ s.choices.find? optionId = some choice ∧
    choice.target = .goTo id
  /-- The option is not listed as leading nowhere. -/
  listed : ∀ missing, (owner, optionId, missing) ∉ story.danglingTargets
  /-- Choosing it, while it is on offer, enters this section unless the effect redirects. -/
  enters : ∀ (session : Session σ) (s : Section) (choice : Choice),
    story.SameBook session.story → session.current = owner →
    session.story.section? owner = some s → s.choices.find? optionId = some choice →
    optionId ∈ session.offeredIds E →
    (choice.execute E (session.stageOffered E)).1.redirected = false →
    ∃ followed, (session.choose E optionId).1 = .ok followed ∧
      followed.navigation = .entered id ∧ followed.redirected = false ∧
      (session.choose E optionId).2.current = id

variable {document : Document} {engine : σ} {story : Story σ} {owner optionId id : String}
  {spec : SectionSpec} {option : OptionSpec}

/-- An option leads to a section of the story if this is its target. -/
theorem leadsTo_of_target (hd : document.Distinct)
    (hbook : (ofDocument document engine).SameBook story)
    (howner : document.sections.find? owner = some spec)
    (hoption : spec.options.find? optionId = some option)
    (hsection : document.sections.has id = true)
    (htarget : Target.resolve option.goto? owner = .goTo id) :
    story.LeadsTo E owner optionId id := by
  obtain ⟨there, hthere⟩ := Fields.find?_of_has hsection
  have hloaded : (ofDocument document engine).hasSection id = true :=
    hasSection_iff.mpr ⟨Section.ofSpec id there, by rw [section?_ofDocument, hthere]; rfl⟩
  have hthere : story.hasSection id = true := (hbook.hasSection id).trans hloaded
  obtain ⟨s, choice, hs, hc, heq⟩ := hbook.target howner hoption
  refine ⟨⟨s, choice, hs, hc, heq.trans htarget⟩, fun missing hmem => ?_, ?_⟩
  · obtain ⟨s, choice, hs, hc, hmissing, hnone⟩ := (hbook.mem_danglingTargets hd).mp hmem
    have heq := hbook.target_eq howner hoption hs hc
    obtain rfl : missing = id := Target.goTo.inj (hmissing.symm.trans (heq.trans htarget))
    exact absurd hthere (Bool.eq_false_iff.mp hnone)
  · rintro session s choice hsame rfl hs hc ho hx
    have heq := (hbook.trans hsame).target_eq howner hoption hs hc
    exact Session.enters hs hc ho hx (heq.trans htarget) ((hsame.hasSection id).trans hthere)

/-- In a story that is loaded, the target of an option that is written as the id of a section is
what is left of the id without the blanks around it, or the section of the option where that is
`self`. So the option leads to the section if its id has no such blanks, and else only if the
section is its own and named by `self`. -/
theorem leadsTo_iff (hd : document.Distinct) (hcheck : document.check = .ok ())
    (hload : (load E document engine).1 = .ok story)
    (howner : document.sections.find? owner = some spec)
    (hoption : spec.options.find? optionId = some option) (hgoto : option.goto? = some id)
    (hsection : document.sections.has id = true) (hself : id ≠ "self")
    (hrestart : id ≠ "restart") :
    (∃ s choice, story.section? owner = some s ∧ s.choices.find? optionId = some choice ∧
      choice.target = .ofText (if Text.trim id = "self" then owner else Text.trim id)) ∧
    (story.LeadsTo E owner optionId id ↔
      Text.trim id = id ∨ Text.trim id = "self" ∧ owner = id) := by
  obtain ⟨loaded, -, rfl⟩ := load_ok hload
  have hblank := Document.not_isBlank_of_check hcheck hsection
  have hbook := SameBook.refl (ofDocument document loaded)
  have hresolve : Target.resolve (some id) owner = .goTo id ↔
      Text.trim id = id ∨ Text.trim id = "self" ∧ owner = id :=
    Target.resolve_eq_goTo_iff hblank hself hrestart
  obtain ⟨s, choice, hs, hc, htarget⟩ := hbook.target howner hoption
  rw [hgoto] at htarget
  refine ⟨⟨s, choice, hs, hc, htarget.trans (Target.resolve_some hblank owner)⟩, ?_, fun h => ?_⟩
  · rintro ⟨⟨s, choice, hs, hc, hleads⟩, -, -⟩
    have heq := hbook.target_eq howner hoption hs hc
    rw [hgoto] at heq
    exact hresolve.mp (heq.symm.trans hleads)
  · exact leadsTo_of_target hd hbook howner hoption hsection (hgoto ▸ hresolve.mpr h)

/-- A hall with a way up to the attic. -/
def wayUp : Source Script.Interpreter :=
  ⟨"sections: \x7bhall: \x7boptions: \x7bup: [Up, attic]\x7d\x7d, attic: \x7b\x7d\x7d", .seeded 1⟩

/-- The way up leads to the attic: a player who takes it is there. -/
theorem way_up_leads :
    ∃ document story session, wayUp.opened? Script.engine = some (document, story) ∧
      story.LeadsTo Script.engine "hall" "up" "attic" ∧
      Session.create Script.engine wayUp none = .ok session ∧ session.current = "hall" ∧
      (session.choose Script.engine "up").2.current = "attic" := by
  have hopens : ((wayUp.opened? Script.engine).any fun opened =>
      opened.1.sections.has "attic" && (opened.1.sections.find? "hall").any fun spec =>
        (spec.options.find? "up").any fun option => decide (option.goto? = some "attic")) =
        true := by
    decide +kernel
  have hplays : (Session.create Script.engine wayUp none).toOption.any (fun session =>
      decide (session.current = "hall") &&
      decide ("up" ∈ session.offeredIds Script.engine) &&
      (session.story.section? "hall").any fun s =>
        (s.choices.find? "up").any fun choice =>
          !(choice.execute Script.engine (session.stageOffered Script.engine)).1.redirected) =
        true := by
    decide +kernel
  obtain ⟨⟨document, story⟩, hopened, hopens⟩ := (Option.any_eq_true ..).mp hopens
  obtain ⟨session, hsession, hplays⟩ := (Option.any_eq_true ..).mp hplays
  simp only [Bool.and_eq_true, decide_eq_true_eq, Option.any_eq_true, Bool.not_eq_true']
    at hopens hplays
  obtain ⟨hattic, spec, hspec, option, hoption, hgoto⟩ := hopens
  obtain ⟨⟨hcurrent, hoffered⟩, s, hs, choice, hc, hx⟩ := hplays
  obtain ⟨hdocument, hload⟩ := Source.opened?_eq_some hopened
  have hleads := (leadsTo_iff (Document.distinct_ofText hdocument)
    (Document.check_of_ofText hdocument) hload hspec hoption hgoto hattic (by decide)
    (by decide)).2.mpr (.inl (by decide +kernel))
  have hcreate := toOption_eq_some hsession
  have hloads : wayUp.load Script.engine = .ok story := by
    rw [Source.load, hdocument]
    exact hload
  have htext : session.source.text = wayUp.text := by
    obtain ⟨created, s, -, -, rfl⟩ := Session.create_ok hcreate
    rfl
  have hsame := Session.Opened.sameBook_run (.created hcreate) htext hloads []
  obtain ⟨followed, -, -, -, hup⟩ := hleads.enters session s choice hsame hcurrent hs hc hoffered hx
  exact ⟨document, story, session, hopened, hleads, hcreate, hcurrent, hup⟩

/-- A hall with a way up to an attic whose id has blanks around it. -/
def wayUpMissed : Source Script.Interpreter :=
  ⟨"sections: \x7bhall: \x7boptions: \x7bup: [Up, ' attic ']\x7d\x7d, ' attic ': \x7b\x7d\x7d",
    .seeded 1⟩

/-- The way up names the attic and does not lead there: it is listed as leading nowhere. -/
theorem way_up_missed :
    ∃ document story spec option, wayUpMissed.opened? Script.engine = some (document, story) ∧
      document.check = .ok () ∧ document.sections.find? "hall" = some spec ∧
      spec.options.find? "up" = some option ∧ option.goto? = some " attic " ∧
      document.sections.has " attic " = true ∧
      story.danglingTargets = [("hall", "up", "attic")] ∧
      ¬ story.LeadsTo Script.engine "hall" "up" " attic " := by
  have hopens : ((wayUpMissed.opened? Script.engine).any fun opened =>
      opened.1.sections.has " attic " &&
      decide (opened.2.danglingTargets = [("hall", "up", "attic")]) &&
      (opened.1.sections.find? "hall").any fun spec =>
        (spec.options.find? "up").any fun option => decide (option.goto? = some " attic ")) =
        true := by
    decide +kernel
  obtain ⟨⟨document, story⟩, hopened, hopens⟩ := (Option.any_eq_true ..).mp hopens
  simp only [Bool.and_eq_true, decide_eq_true_eq, Option.any_eq_true] at hopens
  obtain ⟨⟨hattic, hlisted⟩, spec, hspec, option, hoption, hgoto⟩ := hopens
  obtain ⟨hdocument, hload⟩ := Source.opened?_eq_some hopened
  refine ⟨document, story, spec, option, hopened, Document.check_of_ofText hdocument, hspec,
    hoption, hgoto, hattic, hlisted, fun hleads => hleads.listed "attic" ?_⟩
  rw [hlisted]
  exact List.mem_cons_self

end Story

end Gamebook
