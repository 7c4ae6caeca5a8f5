import Gamebook.Proofs.Agents

/-!
# Starting over forgets everything

Starting over loads the story again from its source. So nothing is left of what was played before:
the session is one that is created from the same source, and with a seed the same dice are thrown
again. A game that is played by commands hands its story and its seed on from one state file to the
next. A choice that starts such a game over therefore shows and writes what the first command shows
and writes.

* `Source.after` : the source, of which some engines have been used.
* `Session.restart_create`, `Session.section?_create` : a session that has started over is a new
  one, in which nothing but the start section was entered.
* `Session.LeadsBack` : an option is on offer that starts the story over.
* `Agent.Succeed` : commands that succeed, one after the other.
* `Agent.restart_forgets` : starting over, by commands and in memory.
-/

namespace Gamebook

/-- The section that a story of the document starts in. -/
def Document.startId (document : Document) : String :=
  if document.sections.has "start" then "start" else document.sections.names.headD "start"

theorem Story.startId_ofDocument {σ : Type} (document : Document) (engine : σ) :
    (Story.ofDocument document engine).startId = document.startId := by
  have hhas : (Story.ofDocument document engine).hasSection "start" =
      document.sections.has "start" := by
    rw [Story.hasSection, Bool.eq_iff_iff, Fields.has_iff, Fields.has_iff, names_ofDocument]
  rw [Story.startId, Document.startId, hhas, names_ofDocument]

namespace Source

variable {σ : Type}

/-- The source, after the story has been loaded so many times. -/
def after (times : Nat) (source : Source σ) : Source σ :=
  { source with engines := ⟨fun time => source.engines.ofTime (time + times)⟩ }

theorem later_after (times : Nat) (source : Source σ) :
    (source.after times).later = source.after (times + 1) := by
  have hnext (time : Nat) : time + 1 + times = time + (times + 1) := by omega
  simp only [after, later, Engines.later, hnext]

/-- With a seed the source is the same after any time. -/
theorem after_eq {source : Source σ} {engine : σ} (h : source.engines = .always engine)
    (times : Nat) : source.after times = source := by
  obtain ⟨text, engines⟩ := source
  obtain rfl : engines = .always engine := h
  rfl

theorem later_eq {source : Source σ} {engine : σ} (h : source.engines = .always engine) :
    source.later = source := after_eq h 1

end Source

namespace Session

variable {σ : Type} {E : Engine σ} {session after : Session σ}

/-! ## In memory -/

/-- A session that goes on from a save keeps the source that its story was loaded from. -/
theorem source_resume {source : Source σ} {save : Save} (h : resume E source save = .ok session) :
    session.source = source ∧ ∃ story, source.load E = .ok story := by
  obtain ⟨-, story, entered, written, hload, -, -, rfl⟩ := resume_ok h
  exact ⟨rfl, story, hload⟩

/-- No step changes the source, but for the engines that starting over uses up. -/
theorem closed_source (E : Engine σ) (source : Source σ) :
    Closed E fun session => session.AtCursor ∧ ∃ times, session.source = source.after times where
  known h := h.1.known
  on_stage h _ hbound := ⟨h.1.on_stage hbound, h.2⟩
  executed h _ _ _ _ _ hs hc hx := ⟨(AtCursor.closed E).executed h.1 hs hc hx, h.2⟩
  entered h _ _ hs := ⟨(AtCursor.closed E).entered h.1 hs, h.2⟩
  restarted {session} h _ hload := by
    obtain ⟨-, times, hsource⟩ := h
    refine ⟨atCursor_atStart hload, times + 1, ?_⟩
    change session.source.later = _
    rw [hsource, Source.later_after]

theorem source_run (h : Opened E session) (steps : List Step) :
    ∃ times, (session.run E steps).source = session.source.after times :=
  ((closed_source E session.source).run ⟨h.atCursor, 0, rfl⟩ steps).2

/-- A session that has started over is one that is created from its source. -/
theorem restart_create (h : session.restart E = (.ok (), after)) :
    create E session.source.later none = .ok after := by
  unfold restart at h
  split at h
  · next fresh hcreate =>
    cases h
    exact hcreate
  · cases h

/-- A new session is in the start section, which was entered once. No other section was entered, and
options are hidden where the document hides them. -/
theorem section?_create {source : Source σ} (h : create E source none = .ok session) :
    ∃ document, Document.ofText source.text = .ok document ∧
      session.current = document.startId ∧
      ∀ id, session.story.section? id = (document.sections.find? id).map fun spec =>
        { Section.ofSpec id spec with visits := if id = document.startId then 1 else 0 } := by
  obtain ⟨story, s, hload, hs, rfl⟩ := create_ok h
  obtain ⟨document, engine, hdocument, -, rfl⟩ := Source.load_ok hload
  rw [Option.getD_none, Story.startId_ofDocument] at hs ⊢
  refine ⟨document, hdocument, rfl, fun id => ?_⟩
  have hsections := Story.section?_ofDocument document engine id
  rw [Story.section?] at hsections ⊢
  rw [Story.sections_visit hs, Fields.find?_modify, hsections]
  split
  · rw [Option.map_map]
    rfl
  · rfl

/-- The option is on offer, and executing it leads back to the start. -/
def LeadsBack (E : Engine σ) (session : Session σ) (optionId : String) : Prop :=
  ∃ s choice, session.story.section? session.current = some s ∧
    s.choices.find? optionId = some choice ∧ optionId ∈ session.offeredIds E ∧
    (choice.execute E (session.stageOffered E)).1.target = .restart

/-- Choosing such an option starts the story over, if it can be loaded. -/
theorem choose_leadsBack {optionId : String} (h : session.LeadsBack E optionId) {story : Story σ}
    (hload : session.source.later.load E = .ok story) :
    ∃ notice redirected, session.choose E optionId =
      (.ok ⟨.restarted story.startId, notice, redirected⟩,
        atStart E session.source.later story) := by
  obtain ⟨s, choice, hs, hc, ho, htarget⟩ := h
  refine ⟨(choice.execute E (session.stageOffered E)).1.notice,
    (choice.execute E (session.stageOffered E)).1.redirected, ?_⟩
  have hsource (stage : Stage σ) :
      (session.executed optionId stage).source.later.load E = .ok story := hload
  rw [choose_offered hs hc ho (Prod.eta _).symm, htarget, follow_restart, hsource]
  rfl

end Session

/-! ## By commands -/

namespace Agent

/-- Commands are carried out one after the other, and each of them succeeds. -/
inductive Succeed {σ : Type} (host : Host (StateM Disk) σ) : List Command → Disk → Disk → Prop where
  | nil (disk : Disk) : Succeed host [] disk disk
  | cons {command : Command} {rest : List Command} {disk middle after : Disk} {ending : Ending}
    (h : CommandLine.openCommand host command disk = (.ended ending, middle))
    (hcode : ending.code = 0) (hrest : Succeed host rest middle after) :
    Succeed host (command :: rest) disk after

/-- The state file after the last of some steps. -/
def lastFile (stateOut : String) : List (Move × String) → String
  | [] => stateOut
  | (_, stateOut) :: rest => lastFile stateOut rest

/-- A state file holds the state of a session of a story with a seed. -/
def Keeps {σ : Type} (E : Engine σ) (storyRef : String) (seed : Option UInt32) (disk : Disk)
    (stateFile : String) : Prop :=
  ∃ session : Session σ,
    disk.read stateFile = .ok (Player.stateOf E storyRef seed session).toJson.indented

section Disk

variable {σ : Type} {host : Host (StateM Disk) σ} {disk before after : Disk} {command : Command}
  {stateIn stateOut storyRef path : String} {seed : Option UInt32} {story : StoryFile}
  {session : Session σ} {boundary : Boundary}

/-- What is read from such a file has this story and this seed. -/
theorem Keeps.read {E : Engine σ} (h : Keeps E storyRef seed disk stateIn) {state : PlayerState}
    (hread : (PlayerState.read Disk.files stateIn disk).1 = .ok state) :
    state.storyRef = storyRef ∧ state.seed = seed := by
  obtain ⟨session, htext⟩ := h
  obtain ⟨text, htext', haccept⟩ := PlayerState.read_ok hread
  obtain rfl := Except.ok.inj (htext.symm.trans htext')
  obtain rfl := PlayerState.accept_written haccept
  exact ⟨rfl, rfl⟩

/-- A session is opened from the text of the story, which can be loaded. -/
theorem Opens.source (h : Opens host disk command story seed session) :
    session.source = (host.source story.text seed disk).1 ∧
      ∃ loaded, session.source.load host.engine = .ok loaded := by
  cases h with
  | start hfind hsession =>
    obtain ⟨loaded, s, hload, -, rfl⟩ :=
      Session.create_ok (StoryFile.newSession_ok_iff.mp hsession)
    exact ⟨rfl, loaded, hload⟩
  | goOn hin hread hfind hsession =>
    obtain ⟨hsource, hload⟩ := Session.source_resume (StoryFile.resumeSession_ok_iff.mp hsession)
    exact ⟨hsource, hsource ▸ hload⟩

variable (hfiles : host.files = Disk.files) (hclock : ∀ disk, (host.clock disk).2 = disk)
include hfiles

/-- A command that goes on from such a file opens the story file of its path, with the seed. -/
theorem Opens.keeps (h : Opens host disk command story seed session) {seed' : Option UInt32}
    (hin : command.stateIn? = some stateIn)
    (hkeeps : Keeps host.engine (Shelf.refStart ++ path) seed' disk stateIn)
    (habsolute : Path.isAbsolute path = true) :
    seed = seed' ∧ ∃ text, disk.read path = .ok text ∧ story = .ofText path text := by
  obtain ⟨state, hread, rfl, hfind, -⟩ := (h.given hfiles).goneOn hin
  obtain ⟨href, hseed⟩ := hkeeps.read (congrArg Prod.fst hread)
  refine ⟨hseed, ?_⟩
  have hstory := Attempt.eq_of_asks (Shelf.asks_ofRef _) hfind
  rw [href, Shelf.ofRef, Text.afterStart?_append] at hstory
  obtain ⟨text, htext, rfl, -⟩ := Shelf.ofPath_ok hstory
  rw [Path.join, if_pos habsolute] at htext ⊢
  exact ⟨text, htext, rfl⟩

include hclock

/-- A command that succeeds has written a state of the session that it opened. -/
theorem opens_of_success (hout : command.stateOut? = some stateOut) {ending : Ending}
    (h : CommandLine.openCommand host command disk = (.ended ending, after))
    (hcode : ending.code = 0) :
    ∃ story seed session, Opens host disk command story seed session ∧
      Keeps host.engine story.ref seed after stateOut := by
  obtain ⟨ending', after', hopen, hends⟩ := openCommand_cases hfiles hclock hout disk
  obtain ⟨hending, rfl⟩ := Prod.mk.inj (h.symm.trans hopen)
  obtain rfl := Opening.ended.inj hending
  obtain hfailed | ⟨story, seed, session, hopens, hok⟩ := hends
  · rw [hfailed.code] at hcode
    cases hcode
  · exact ⟨story, seed, session, hopens, _, hok.state.1⟩

/-- Steps that succeed hand the story and the seed on to the last state file. -/
theorem Succeed.keeps {moves : List (Move × String)}
    (hplayed : Succeed host (commandsFrom stateIn moves) disk before)
    (hkeeps : Keeps host.engine (Shelf.refStart ++ path) seed disk stateIn)
    (habsolute : Path.isAbsolute path = true) :
    Keeps host.engine (Shelf.refStart ++ path) seed before (lastFile stateIn moves) := by
  induction moves generalizing disk stateIn with
  | nil =>
    cases hplayed
    exact hkeeps
  | cons entry rest ih =>
    obtain ⟨move, stateOut⟩ := entry
    cases hplayed with
    | cons h hcode hrest =>
      obtain ⟨story, seed', session, hopens, hnext⟩ :=
        opens_of_success hfiles hclock (move.stateOut?_command ..) h hcode
      obtain ⟨rfl, text, -, rfl⟩ :=
        hopens.keeps hfiles (move.stateIn?_command ..) hkeeps habsolute
      exact ih hrest hnext

/-- A first step shows and writes a new session of its story. -/
theorem openCommand_new {place : StoryPlace} {given : UInt32} {created final : Session σ}
    (hfind : (place.find Disk.files disk).1 = .ok story)
    (hcreate : Session.create host.engine ⟨story.text, .always (host.fresh given)⟩ none =
      .ok created)
    (hshown : Boundary.ofSession host.engine created = (.ok boundary, final))
    (hkeep : disk.keep stateOut
      (Player.stateOf host.engine story.ref (some given) final).toJson.indented = .ok after) :
    CommandLine.openCommand host (.start place none (some given) stateOut) disk =
      (.ended (endingOf stateOut boundary), after) := by
  have hopens : Opens host disk (.start place none (some given) stateOut) story (some given)
      created := .start (hfiles ▸ hfind) (StoryFile.newSession_ok_iff.mpr hcreate)
  have hstep : Command.step host.engine (.start place none (some given) stateOut) created =
      (.ok boundary, final) := hshown
  exact openCommand_shows hfiles (fun _ => hclock) rfl hopens hstep hkeep

/-- A choice that leads back to the start shows and writes a new session of the same story, but for
the notice of the option. -/
theorem openCommand_leadsBack {optionId : String} {given : UInt32}
    (hopens : Opens host disk (.choose stateIn optionId stateOut) story (some given) session)
    (hback : session.LeadsBack host.engine optionId) :
    ∃ created view final notice,
      Session.create host.engine ⟨story.text, .always (host.fresh given)⟩ none = .ok created ∧
      created.view host.engine = (.ok view, final) ∧
      ∀ after, disk.keep stateOut
          (Player.stateOf host.engine story.ref (some given) final).toJson.indented = .ok after →
        CommandLine.openCommand host (.choose stateIn optionId stateOut) disk =
          (.ended (endingOf stateOut { Boundary.ofView view with notice }), after) := by
  obtain ⟨hsource, loaded, hload⟩ := hopens.source
  have hgiven : session.source = ⟨story.text, .always (host.fresh given)⟩ := hsource
  have hlater := Source.later_eq (congrArg Source.engines hgiven)
  obtain ⟨notice, redirected, hchoose⟩ := Session.choose_leadsBack hback (hlater.symm ▸ hload)
  rw [hlater] at hchoose
  obtain ⟨view, final, hview⟩ : ∃ view final,
      (Session.atStart host.engine session.source loaded).view host.engine = (.ok view, final) := by
    obtain ⟨view, stage, hview, -⟩ := (Session.atCursor_atStart hload).view host.engine
    exact ⟨view, _, hview⟩
  refine ⟨_, view, final, notice, ?_, hview, fun after hkeep => ?_⟩
  · rw [← hgiven, Session.create_none, hload]
    rfl
  · have hstep : Command.step host.engine (.choose stateIn optionId stateOut) session =
        (.ok { Boundary.ofView view with notice }, final) := by
      simp only [Command.step, choosing, hchoose, Boundary.afterChoice, Boundary.ofSession, hview,
        Boundary.ofView]
    exact openCommand_shows hfiles (fun _ => hclock) rfl hopens hstep hkeep

/-- Starting over forgets everything. In a game that is played by commands, however long it was, a
choice that leads back to the start shows what a first step with the same story and seed shows, but
for the notice of the option, and writes the same state. In memory the session is, however it was
reached, one that is created from its source without a start section of its own: with a seed it has
the same dice, and without one those of a later time. Nothing was entered but the start section, and
that once, and the document says which options are hidden. -/
theorem restart_forgets :
    (∀ {disk before : Disk} {place : StoryPlace} {story story' : StoryFile} {given : UInt32}
      {seed : Option UInt32} {first optionId stateOut : String} {moves : List (Move × String)}
      {session : Session σ},
      Path.isAbsolute disk.current = true →
      (place.find Disk.files disk).1 = .ok story →
      Succeed host (commands place none given first moves) disk before →
      before.read story.path = .ok story.text →
      Opens host before (.choose (lastFile first moves) optionId stateOut) story' seed session →
      session.LeadsBack host.engine optionId →
      ∃ created view final notice,
        Session.create host.engine ⟨story.text, .always (host.fresh given)⟩ none = .ok created ∧
        created.view host.engine = (.ok view, final) ∧
        (∀ after, before.keep stateOut
            (Player.stateOf host.engine story.ref (some given) final).toJson.indented = .ok after →
          CommandLine.openCommand host (.choose (lastFile first moves) optionId stateOut) before =
            (.ended (endingOf stateOut { Boundary.ofView view with notice }), after)) ∧
        ∀ disk' place' stateOut' after, (StoryPlace.find Disk.files place' disk').1 = .ok story →
          disk'.keep stateOut'
            (Player.stateOf host.engine story.ref (some given) final).toJson.indented = .ok after →
          CommandLine.openCommand host (.start place' none (some given) stateOut') disk' =
            (.ended (endingOf stateOut' (.ofView view)), after)) ∧
    ∀ {opened after : Session σ} (steps : List Session.Step), opened.Opened host.engine →
      (opened.run host.engine steps).restart host.engine = (.ok (), after) →
      (∀ engine, opened.source.engines = .always engine →
        Session.create host.engine opened.source none = .ok after) ∧
      (∃ times, Session.create host.engine (opened.source.after (times + 1)) none = .ok after) ∧
      ∃ document, Document.ofText opened.source.text = .ok document ∧
        after.current = document.startId ∧
        ∀ id, after.story.section? id = (document.sections.find? id).map fun spec =>
          { Section.ofSpec id spec with visits := if id = document.startId then 1 else 0 } := by
  constructor
  · intro disk before place story story' given seed first optionId stateOut moves session
      habsolute hfind hplayed hstory hopens hback
    have hfound : place.find Disk.files disk = (.ok story, (place.find Disk.files disk).2) :=
      Prod.ext hfind rfl
    obtain ⟨path, text, -, hpath, rfl, -⟩ := StoryPlace.find_ok habsolute hfound
    cases hplayed with
    | cons h hcode hrest =>
      obtain ⟨begun, seed', created, hbegun, hkeeps⟩ :=
        opens_of_success hfiles hclock rfl h hcode
      obtain ⟨hplace, rfl⟩ := (hbegun.given hfiles).begun rfl
      obtain rfl := Except.ok.inj (hfind.symm.trans hplace)
      -- the choice opens the same story with the same seed
      obtain ⟨rfl, text', htext, rfl⟩ :=
        hopens.keeps hfiles rfl (hrest.keeps hfiles hclock hkeeps hpath) hpath
      obtain rfl : text = text' := Except.ok.inj (hstory.symm.trans htext)
      obtain ⟨created, view, final, notice, hcreate, hview, hchoice⟩ :=
        openCommand_leadsBack hfiles hclock hopens hback
      refine ⟨created, view, final, notice, hcreate, hview, hchoice, ?_⟩
      intro disk' place' stateOut' after hfind' hkeep
      refine openCommand_new hfiles hclock hfind' hcreate ?_ hkeep
      rw [Boundary.ofSession, hview]
  · intro opened after steps hopened hrestart
    have hcreate := Session.restart_create hrestart
    obtain ⟨times, hsource⟩ := Session.source_run hopened steps
    rw [hsource, Source.later_after] at hcreate
    have hsections := Session.section?_create hcreate
    refine ⟨fun engine hseeded => ?_, ⟨times, hcreate⟩, hsections⟩
    rwa [Source.after_eq hseeded] at hcreate

end Disk

/-- A hall with a door that can be taken once, and a yard with a way back to the start. -/
def hallAndYard : Source Script.Interpreter :=
  ⟨"sections: \x7bhall: \x7boptions: " ++
    "\x7bdoor: \x7btext: Door, goto: yard, flags: [once]\x7d\x7d\x7d, " ++
    "yard: \x7boptions: \x7bagain: \x7btext: Again, goto: restart, notify: Bye\x7d\x7d\x7d\x7d",
    .seeded 1⟩

/-- An option leads back to the start, as it can be worked out. -/
def leadsBack (session : Session Script.Interpreter) (optionId : String) : Bool :=
  (session.story.section? session.current).any fun s => (s.choices.find? optionId).any fun choice =>
    (session.offeredIds Script.engine).contains optionId &&
      (choice.execute Script.engine (session.stageOffered Script.engine)).1.target == .restart

theorem leadsBack_of_check {session : Session Script.Interpreter} {optionId : String}
    (h : leadsBack session optionId = true) : session.LeadsBack Script.engine optionId := by
  obtain ⟨s, hs, h⟩ := (Option.any_eq_true ..).mp h
  obtain ⟨choice, hc, h⟩ := (Option.any_eq_true ..).mp h
  simp only [Bool.and_eq_true, List.contains_iff_mem, beq_iff_eq] at h
  exact ⟨s, choice, hs, hc, h.1, h.2⟩

/-- The save of a session is read as it was written, and what goes on from it passes a check. -/
def goesOn (source : Source Script.Interpreter) (check : Session Script.Interpreter → Bool)
    (session : Session Script.Interpreter) : Bool :=
  (session.save Script.engine).isPlain (Json.depthLimit - 5) &&
    (Session.resume Script.engine source (session.save Script.engine)).toOption.any check

theorem resumed_of_goesOn {source : Source Script.Interpreter}
    {check : Session Script.Interpreter → Bool} {session : Session Script.Interpreter}
    (h : goesOn source check session = true) :
    (session.save Script.engine).Lasts ∧ ∃ resumed,
      Session.resume Script.engine source (session.save Script.engine) = .ok resumed ∧
        check resumed = true := by
  rw [goesOn, Bool.and_eq_true] at h
  obtain ⟨resumed, hresumed, hcheck⟩ := (Option.any_eq_true ..).mp h.2
  exact ⟨Save.lasts_of_isPlain h.1, resumed, toOption_eq_some hresumed, hcheck⟩

/-- The way to the yard and back, by three commands and by steps in memory. -/
theorem restart_forgets_yard :
    ∃ before created view final notice after,
      Succeed (Disk.host (pure 0)) (commands (.file "/story.yaml") none 1 "/first.json"
        [(.choose "door", "/second.json")]) (shelf hallAndYard.text) before ∧
      Session.create Script.engine hallAndYard none = .ok created ∧
      created.view Script.engine = (.ok view, final) ∧
      CommandLine.openCommand (Disk.host (pure 0))
          (.choose "/second.json" "again" "/third.json") before =
        (.ended (endingOf "/third.json" { Boundary.ofView view with notice }), after) ∧
      CommandLine.openCommand (Disk.host (pure 0))
          (.start (.file "/story.yaml") none (some 1) "/third.json") before =
        (.ended (endingOf "/third.json" (.ofView view)), after) ∧
      (created.run Script.engine [.choose "door"]).restart Script.engine = (.ok (), created) := by
  have hany : (Session.create Script.engine hallAndYard none).toOption.any (fun created =>
      (Boundary.ofSession Script.engine created).1.isOk &&
        goesOn hallAndYard (fun resumed => (choosing Script.engine "door" resumed).1.isOk &&
            goesOn hallAndYard (leadsBack · "again") (choosing Script.engine "door" resumed).2)
          (Boundary.ofSession Script.engine created).2) = true := by decide +kernel
  obtain ⟨created, hcreated, htest⟩ := (Option.any_eq_true ..).mp hany
  rw [Bool.and_eq_true] at htest
  obtain ⟨⟨boundary, hshown⟩, hgoes⟩ := htest.imp_left ok_of_isOk
  obtain ⟨hlasts, resumed, hresume, hgoes⟩ := resumed_of_goesOn hgoes
  rw [Bool.and_eq_true] at hgoes
  obtain ⟨⟨boundary', hshown'⟩, hgoes⟩ := hgoes.imp_left ok_of_isOk
  obtain ⟨hlasts', session, hresume', hback⟩ := resumed_of_goesOn hgoes
  have hcreate := toOption_eq_some hcreated
  have hmoved : ((Move.choose "door").step Script.engine resumed).1 = .ok boundary' := hshown'
  -- the two commands that lead to the yard
  have hshelf : (shelf hallAndYard.text).Takes (.ofText "/story.yaml" hallAndYard.text)
      ["/first.json", "/second.json", "/third.json"] := shelf_takes _ fun _ => id
  obtain ⟨begun, hkeep, hstory, htakes⟩ := hshelf (stateText "/story.yaml" hallAndYard.text 1
    (Boundary.ofSession Script.engine created).2)
  obtain ⟨before, hkeep', hstory', htakes⟩ := htakes (stateText "/story.yaml" hallAndYard.text 1
    (choosing Script.engine "door" resumed).2)
  have hplayed : Succeed (Disk.host (pure 0)) (commands (.file "/story.yaml") none 1 "/first.json"
      [(.choose "door", "/second.json")]) (shelf hallAndYard.text) before :=
    .cons (start_disk (find_shelf _) hcreate (Prod.ext hshown rfl) hkeep) rfl <|
      .cons (command_disk (by decide) ⟨Disk.read_keep hkeep, hstory⟩ hlasts hresume hmoved hkeep')
        rfl (.nil before)
  -- the choice that leads back
  have hopens : Opens (Disk.host (pure 0)) before (.choose "/second.json" "again" "/third.json")
      (.ofText "/story.yaml" hallAndYard.text) (some 1) session :=
    opens_parked (by decide) rfl ⟨Disk.read_keep hkeep', hstory'⟩ hlasts' hresume'
  obtain ⟨hcommands, hmemory⟩ := restart_forgets
    (show (Disk.host (pure 0)).files = Disk.files from rfl) fun _ => rfl
  obtain ⟨created', view, final, notice, hcreate', hview, hchoice, hfirst⟩ :=
    hcommands (by decide) (congrArg Prod.fst (find_shelf _)) hplayed hstory' hopens
      (leadsBack_of_check hback)
  have hsame : Session.create Script.engine hallAndYard none = .ok created' := hcreate'
  obtain rfl : created = created' := Except.ok.inj (hcreate.symm.trans hsame)
  obtain ⟨after, hkeep'', -⟩ := htakes (stateText "/story.yaml" hallAndYard.text 1 final)
  refine ⟨before, created, view, final, notice, after, hplayed, hcreate, hview,
    hchoice after hkeep'', hfirst _ _ _ after ?_ hkeep'', ?_⟩
  · exact congrArg Prod.fst (Shelf.ofPath_files (by decide) hstory')
  · obtain ⟨story, s, hload, -, hbegins⟩ := Session.create_ok hcreate
    have hsource : created.source = hallAndYard := congrArg Session.source hbegins
    have hseeded : created.source.engines = .seeded 1 := congrArg Source.engines hsource
    obtain ⟨times, hrun⟩ := Session.source_run (.created hcreate) [.choose "door"]
    rw [Source.after_eq hseeded, hsource] at hrun
    have hsteady : hallAndYard.later = hallAndYard := rfl
    have hrestart := Session.restart_eq Script.engine (created.run Script.engine [.choose "door"])
    rw [hrun, hsteady, hload] at hrestart
    obtain ⟨hagain, -⟩ := hmemory _ (.created hcreate) hrestart
    have hanew := hagain _ hseeded
    rw [hsource] at hanew
    rw [hrestart, Except.ok.inj (hcreate.symm.trans hanew)]

end Agent

end Gamebook
