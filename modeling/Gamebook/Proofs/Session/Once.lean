import Gamebook.Proofs.Session.Resuming

/-!
# Options that can be executed once only

Executing such an option hides it, whatever its effect does and wherever its target leads. Hidden
options are not offered, and they stay hidden: no step shows one again short of starting the story
over, and a save keeps them.

* `Session.Continues` : the sessions that go on from one without starting over.
* `Session.Spent` : an option is gone.
* `Session.once_spent` : an option that was executed once, and can be once only, is gone for good.
-/

namespace Gamebook

variable {σ : Type} {E : Engine σ}

/-! ## Hidden options are not offered -/

/-- The options that can be chosen are options of the section whose gates are open. -/
theorem Section.mem_availableOf {visits : UInt32} {choices : Fields Choice} {st : Stage σ}
    {choice : Choice} (h : choice ∈ (availableOf E visits choices st).1) :
    ∃ optionId, (optionId, choice) ∈ choices ∧ choice.gatesOpen visits = true := by
  induction choices generalizing st with
  | nil => cases h
  | cons entry rest ih =>
    obtain ⟨optionId, first⟩ := entry
    have hrest : choice ∈ (availableOf E visits rest (first.isAvailable E visits st).2).1 →
        ∃ optionId', (optionId', choice) ∈ (optionId, first) :: rest ∧
          choice.gatesOpen visits = true := by
      intro hmem
      obtain ⟨optionId', hmem', hopen⟩ := ih hmem
      exact ⟨optionId', List.mem_cons_of_mem _ hmem', hopen⟩
    simp only [availableOf] at h
    split at h
    · next hfirst =>
      rcases List.mem_cons.mp h with rfl | hmem
      · refine ⟨optionId, List.mem_cons_self, ?_⟩
        cases hopen : choice.gatesOpen visits with
        | true => rfl
        | false => simp [Choice.isAvailable, hopen] at hfirst
      · exact hrest hmem
    · exact hrest h

/-- Options are shown under their own ids. -/
theorem Story.ids_offersOf (E : Engine σ) (choices : List Choice) (st : Stage σ) :
    (offersOf E choices st).1.map Offer.id = choices.map Choice.id := by
  induction choices generalizing st with
  | nil => rfl
  | cons choice rest ih => exact congrArg (choice.id :: ·) (ih _)

/-- Every option stands under its own id, and no two under the same. -/
structure Section.KeyedChoices (s : Section) : Prop where
  nodup : s.choices.names.Nodup
  ids : ∀ entry ∈ s.choices, entry.2.id = entry.1

/-- A hidden option is not among those that are shown. -/
theorem Story.hidden_not_offered {story shown : Story σ} {id optionId : String} {s : Section}
    (hs : story.section? id = some s) (hkeyed : s.KeyedChoices)
    (hhidden : story.hiddenOf id optionId = some true) {offers : List Offer}
    (ho : story.offers E id = (.ok offers, shown)) : optionId ∉ offers.map Offer.id := by
  rw [hiddenOf, hs, Option.bind_some, Option.map_eq_some_iff] at hhidden
  obtain ⟨hidden, hfind, hhidden⟩ := hhidden
  simp only [Story.offers, onSection, hs, onStage, Prod.mk.injEq, Except.ok.injEq] at ho
  rw [← ho.1, ids_offersOf, List.mem_map]
  rintro ⟨choice, hmem, rfl⟩
  obtain ⟨optionId, hmem', hopen⟩ := Section.mem_availableOf hmem
  -- the ids are distinct, so the option that is shown is the hidden one
  have hfind' := Fields.find?_of_mem hkeyed.nodup hmem'
  rw [← show choice.id = optionId from hkeyed.ids _ hmem', hfind] at hfind'
  obtain rfl := Option.some.inj hfind'
  simp [Choice.gatesOpen, hhidden] at hopen

/-- The options of a section stand under their ids. -/
theorem Section.ids_choices {id : String} {spec : SectionSpec} {s : Section}
    (h : (Section.ofSpec id spec).unplayed = s.unplayed) :
    ∀ entry ∈ s.choices, entry.2.id = entry.1 := by
  intro entry hmem
  -- hiding changes no id
  have hshown : (entry.1, entry.2.shown) ∈ (Section.ofSpec id spec).unplayed.choices := by
    rw [h]
    exact List.mem_map_of_mem hmem
  obtain ⟨⟨optionId, choice⟩, hmem', heq'⟩ := List.mem_map.mp hshown
  obtain ⟨⟨optionId', option⟩, -, heq''⟩ := List.mem_map.mp hmem'
  cases heq''
  obtain ⟨hkey, hchoice⟩ := Prod.mk.inj heq'
  change entry.2.shown.id = entry.1
  rw [← hchoice, ← hkey]
  cases option <;> rfl

/-- The sections of a document that is being played keep their options under their ids. -/
theorem Story.Plays.keyedChoices {document : Document} {story : Story σ} (h : story.Plays document)
    (hd : document.Distinct) {id : String} {s : Section} (hs : story.section? id = some s) :
    s.KeyedChoices where
  nodup := h.names_choices hd hs
  ids := by
    obtain ⟨spec, -, heq⟩ := h.spec hs
    exact Section.ids_choices heq

namespace Session

variable {text : String} {document : Document} {session : Session σ}

/-! ## Going on without starting over -/

/-- The later session goes on from the earlier one: by steps that do not start the story over, and
from the text of saves. -/
inductive Continues (E : Engine σ) (text : String) (earlier : Session σ) : Session σ → Prop where
  | here : Continues E text earlier earlier
  | stepped {session : Session σ} (h : Continues E text earlier session) {step : Step}
    (hkeep : ¬ session.Restarts E step) : Continues E text earlier (session.step E step)
  | resumed {session resumed : Session σ} {written : String} {save : Save}
    {engines : Engines σ} (h : Continues E text earlier session)
    (hw : (session.save E).WrittenAs written) (hread : Save.ofText written = .ok save)
    (hresume : resume E ⟨text, engines⟩ save = .ok resumed) : Continues E text earlier resumed

/-- The session plays the document, and an option is hidden there. -/
structure Hides (text : String) (document : Document) (sectionId optionId : String)
    (session : Session σ) : Prop where
  plays : session.Plays text document
  hidden : session.story.hiddenOf sectionId optionId = some true

/-- A hidden option stays hidden until the story starts over. -/
theorem Hides.lasting (E : Engine σ) (text : String) (document : Document)
    (sectionId optionId : String) : Lasting E (Hides text document sectionId optionId) where
  known h := h.plays.cursor.known
  on_stage h _ hbound := ⟨h.plays.on_stage hbound, h.hidden⟩
  executed {session} h _ other choice _ stage hs hc hx := by
    refine ⟨h.plays.executed hs hc hx, ?_⟩
    rw [(stays_executed hs hc hx).hidden]
    split
    · next hsame =>
      -- the option that is executed is hidden already
      have hhidden := h.hidden
      rw [hsame.1, hsame.2, Story.hiddenOf, hs, Option.bind_some, hc] at hhidden
      rw [Option.some.inj hhidden, Bool.true_or]
    · exact h.hidden
  entered h _ _ hs := by
    refine ⟨plays_entered h.plays.source h.plays.loaded h.plays.cursor.keyed h.plays.story hs, ?_⟩
    exact (Story.hiddenOf_visit hs _ _).trans h.hidden

theorem Continues.hides {earlier later : Session σ} {sectionId optionId : String}
    (h : Continues E text earlier later) (hhides : Hides text document sectionId optionId earlier) :
    Hides text document sectionId optionId later := by
  induction h with
  | here => exact hhides
  | stepped _ hkeep ih => exact (Hides.lasting E text document _ _).step ih hkeep
  | resumed _ hw hread hresume ih =>
    obtain ⟨hsections, hplays⟩ := ih.plays.section?_resumed hw hread hresume
    refine ⟨hplays, ?_⟩
    rw [Story.hiddenOf, hsections]
    exact ih.hidden

/-! ## Options that are gone -/

/-- Where the player is in this section, the option is not shown, and choosing it is refused. -/
structure Spent (E : Engine σ) (sectionId optionId : String) (session : Session σ) : Prop where
  hidden : session.story.hiddenOf sectionId optionId = some true
  view : session.current = sectionId → ∃ view, (session.view E).1 = .ok view ∧
    view.id = sectionId ∧ optionId ∉ view.offers.map Offer.id
  choose : session.current = sectionId → ∃ fault, (session.choose E optionId).1 = .error fault ∧
    fault = .optionUnavailable optionId sectionId ∧ fault.code = "NAV_OPTION_UNAVAILABLE"

/-- A view shows the options of its section that can be chosen once the text is rendered. -/
theorem view_offers {s : Section} (hs : session.story.section? session.current = some s) :
    ∃ view stage shown, (session.view E).1 = .ok view ∧ view.id = s.id ∧
      Story.offers E session.current { session.story with stage } = (.ok view.offers, shown) := by
  obtain ⟨text, rendered, htext, -⟩ := Story.text_known (E := E) hs
  have hs' : ({ session.story with stage := rendered } : Story σ).section? session.current =
      some s := hs
  obtain ⟨offers, stage, hoffers, -⟩ := Story.offers_known (E := E) hs'
  have hs'' : ({ session.story with stage } : Story σ).section? session.current = some s := hs
  refine ⟨⟨s.id, s.shownTitle, text, s.visits, offers⟩, rendered, _, ?_, rfl, hoffers⟩
  simp only [Session.view, onStory, htext, hoffers, hs'']

/-- A hidden option is gone. -/
theorem Hides.spent (E : Engine σ) {sectionId optionId : String}
    (h : Hides text document sectionId optionId session) : session.Spent E sectionId optionId := by
  have hkeyed {s : Section} (hs : session.story.section? session.current = some s) :
      s.KeyedChoices := h.plays.story.keyedChoices (Document.distinct_ofText h.plays.loaded) hs
  obtain ⟨s, hs⟩ := Story.hasSection_iff.mp h.plays.cursor.known
  refine ⟨h.hidden, ?view, ?choose⟩
  case view =>
    rintro rfl
    obtain ⟨view, stage, shown, hview, hid, hoffers⟩ := view_offers (E := E) hs
    refine ⟨view, hview, hid.trans (h.plays.cursor.keyed _ s hs), ?_⟩
    have hsection : { session.story with stage }.section? session.current = some s := hs
    exact Story.hidden_not_offered hsection (hkeyed hs) h.hidden hoffers
  case choose =>
    rintro rfl
    obtain ⟨offers, hoffers, hids, -⟩ := offers_current (E := E) hs
    have habsent : optionId ∉ session.offeredIds E :=
      hids ▸ Story.hidden_not_offered hs (hkeyed hs) h.hidden hoffers
    have hhas : s.choices.has optionId = true := by
      have hhidden := h.hidden
      rw [Story.hiddenOf, hs, Option.bind_some, Option.map_eq_some_iff] at hhidden
      obtain ⟨choice, hc, -⟩ := hhidden
      rw [Fields.has_eq_isSome, hc]
      rfl
    exact ⟨_, by rw [choose_withheld hs hhas habsent], rfl, rfl⟩

/-- An option that can be executed once only is gone once choosing has executed it: in every session
that goes on from there without starting over, whatever scripts do and whatever the option has led
to. -/
theorem once_spent {before : Session σ} (hreached : Reached E text before) {s : Section}
    (hs : before.story.section? before.current = some s) {optionId : String} {choice : Choice}
    (hc : s.choices.find? optionId = some choice) (honce : choice.isOnce = true)
    (ho : optionId ∈ before.offeredIds E) (hkeep : ¬ before.Restarts E (.choose optionId))
    {later : Session σ} (hlater : Continues E text (before.choose E optionId).2 later) :
    later.Spent E before.current optionId := by
  obtain ⟨document, hplays⟩ := hreached.plays
  obtain ⟨outcome, stage, hx⟩ :
      ∃ outcome stage, choice.execute E (before.stageOffered E) = (outcome, stage) := ⟨_, _, rfl⟩
  obtain ⟨hsession, hrestarted⟩ := choose_followed hs hc ho hx
  -- before the target is followed, the option is hidden
  have hexecuted : Hides text document before.current optionId
      (before.executed optionId stage) := by
    refine ⟨hplays.executed hs hc hx, ?_⟩
    rw [(stays_executed hs hc hx).hidden, if_pos ⟨rfl, rfl⟩, honce, Bool.or_true]
  have hfollowed : Hides text document before.current optionId (before.choose E optionId).2 := by
    rw [hsession]
    refine (Hides.lasting E text document _ _).follow hexecuted fun sectionId hfollow => hkeep ?_
    obtain ⟨followed, hok, hnavigation⟩ := (hrestarted sectionId).mpr hfollow
    exact ⟨followed, sectionId, hok, hnavigation⟩
  exact (hlater.hides hfollowed).spent E

/-- A hall with a door that opens once, whatever goes wrong there, and the yard behind it. -/
def hall : Source Script.Interpreter :=
  ⟨"sections: \x7bhall: \x7boptions: \x7bdoor: \x7btext: Leave, goto: yard, flags: [once], " ++
    "run: nonsense()\x7d\x7d\x7d, yard: \x7b\x7d\x7d", .seeded 1⟩

/-- Leaves through an option, comes back, and goes on from the text of a save. -/
def leaveAndReturn (E : Engine σ) (source : Source σ) (optionId : String) :
    Option (Session σ × Save × Session σ) :=
  (create E source none).toOption.bind fun session =>
    let back := ((session.choose E optionId).2.goTo E session.current).2
    (Save.ofText (back.save E).toJson.compact).toOption.bind fun save =>
      (resume E source save).toOption.map fun resumed => (session, save, resumed)

theorem leaveAndReturn_eq_some {source : Source σ} {optionId : String} {session resumed : Session σ}
    {save : Save} (h : leaveAndReturn E source optionId = some (session, save, resumed)) :
    create E source none = .ok session ∧
      Continues E source.text (session.choose E optionId).2 resumed := by
  obtain ⟨session', hcreate, h⟩ := Option.bind_eq_some_iff.mp h
  obtain ⟨save', hread, h⟩ := Option.bind_eq_some_iff.mp h
  obtain ⟨resumed', hresume, h⟩ := Option.map_eq_some_iff.mp h
  cases h
  refine ⟨toOption_eq_some hcreate, ?_⟩
  have hback : Continues E source.text (session.choose E optionId).2
      ((session.choose E optionId).2.goTo E session.current).2 :=
    @Continues.stepped _ E _ _ _ .here (.goTo session.current) (fun h => h)
  exact .resumed hback (.inl rfl) (toOption_eq_some hread) (toOption_eq_some hresume)

/-- A choice has led into another section. -/
def hasEntered : Except Fault Followed → Bool
  | .ok ⟨.entered _, _, _⟩ => true
  | _ => false

theorem not_restarts_of_hasEntered {optionId : String} {session : Session σ}
    (h : hasEntered (session.choose E optionId).1 = true) :
    ¬ session.Restarts E (.choose optionId) := by
  rintro ⟨⟨navigation, notice, redirected⟩, sectionId, hok, rfl⟩
  rw [hok] at h
  cases h

/-- The door has been opened, and stays shut for a player who is back in the hall. -/
theorem once_spent_door :
    ∃ session save resumed,
      leaveAndReturn Script.engine hall "door" = some (session, save, resumed) ∧
      resumed.current = "hall" ∧ resumed.Spent Script.engine "hall" "door" := by
  have hany : (leaveAndReturn Script.engine hall "door").any (fun game =>
      (game.1.story.section? game.1.current).any (fun s =>
        (s.choices.find? "door").any Choice.isOnce) &&
      game.1.offeredIds Script.engine == ["door"] &&
      hasEntered (game.1.choose Script.engine "door").1 &&
      game.1.current == "hall" && game.2.2.current == "hall") = true := by decide +kernel
  obtain ⟨⟨session, save, resumed⟩, hagain, htest⟩ := (Option.any_eq_true ..).mp hany
  simp only [Bool.and_eq_true, beq_iff_eq] at htest
  obtain ⟨⟨⟨⟨hsection, hoffered⟩, hentered⟩, hcurrent⟩, hresumed⟩ := htest
  obtain ⟨s, hs, hchoice⟩ := (Option.any_eq_true ..).mp hsection
  obtain ⟨choice, hc, honce⟩ := (Option.any_eq_true ..).mp hchoice
  obtain ⟨hcreate, hlater⟩ := leaveAndReturn_eq_some hagain
  refine ⟨session, save, resumed, hagain, hresumed, ?_⟩
  rw [← hcurrent]
  exact once_spent (.created hcreate) hs hc honce (by rw [hoffered]; decide)
    (not_restarts_of_hasEntered hentered) hlater

end Session

end Gamebook
