import Gamebook.CommandLine.Run
import Gamebook.Proofs.DiskFiles
import Gamebook.Proofs.Session.Checking
import Gamebook.Proofs.Session.Showing

/-!
# Commands do all or nothing

A step for programs reads a story and, but for the first step, a state file; it plays on the session
that it opens, and only then it writes. So a command that fails has changed no file and prints the
three lines of its fault. A command that succeeds has written the state of the session it printed,
and the state file is read back as it was written.

* `Agent.Opens` : the story, the seed and the session that a command opens.
* `Agent.openCommand_opens`, `Agent.openCommand_shut` : what a command does, if it opens a session
  and if it does not.
* `Agent.openCommand_shows` : a command succeeds if its step does and its state can be written.
* `Agent.command_atomic` : both ends of a command.
-/

namespace Gamebook

open Script (Interpreter)

/-! ## State files -/

namespace PlayerState

/-- What a written state is read as, if it is read. -/
theorem accept_written {state state' : PlayerState}
    (h : accept state.toJson.indented = .ok state') :
    state' = { state with save := state.save.reread } := by
  unfold accept at h
  cases hread : ofText state.toJson.indented with
  | error complaint =>
    rw [hread] at h
    cases h
  | ok read =>
    rw [hread] at h
    dsimp only at h
    split at h
    · obtain rfl := Except.ok.inj h
      exact Json.decode_written state.decodes_ofNode (Json.written_indented state.fits_toJson) hread
    · cases h

/-- A state whose save lasts is read as it was written. -/
theorem accept_lasts {state : PlayerState} (hschema : state.schema = currentSchema)
    (hlasts : state.save.Lasts) : accept state.toJson.indented = .ok state := by
  obtain ⟨depth, hdepth, hstorable⟩ := hlasts.storable
  have hsame : { state with save := state.save.reread } = state := by rw [hlasts.reread]
  have htext : ofText state.toJson.indented = .ok state := by
    rw [ofText, ← Json.decodeWithin_depthLimit,
      Json.decodeWithin_forms state.decodes_ofNode state.fits_toJson
        ((readable_toJson hstorable).mono hdepth) _ (List.mem_cons_of_mem _ List.mem_cons_self),
      hsame]
  rw [accept, htext]
  exact if_pos hschema

/-- What is read from a state file is what its text holds. -/
theorem read_ok {path : String} {disk : Disk} {state : PlayerState}
    (h : (read Disk.files path disk).1 = .ok state) :
    ∃ text, disk.read path = .ok text ∧ accept text = .ok state := by
  have hread := Attempt.eq_of_asks (asks_read path) h
  obtain ⟨isThere, disk', hthere, h⟩ := Attempt.ok_of_bind hread
  obtain rfl := Shelf.ok_of_lift (by rfl) hthere
  split at h
  · obtain ⟨text, disk'', htext, haccept⟩ := Attempt.ok_of_bind h
    have hfile := Attempt.ok_of_orFault htext
    simp only [Disk.files] at hfile
    cases hdisk : disk'.read path with
    | error trouble => rw [hdisk] at hfile; cases hfile
    | ok found =>
      rw [hdisk] at hfile
      cases hfile
      exact ⟨text, rfl, congrArg Prod.fst haccept⟩
  · cases h

end PlayerState

/-! ## Sessions of story files -/

namespace StoryFile

variable {τ σ : Type} {host : Host (StateM τ) σ} {story : StoryFile} {seed : Option UInt32}
  {session : Session σ} {s : τ}

theorem of_source (next : Source σ → Except Fault (Session σ)) :
    ((ExceptT.lift (host.source story.text seed) >>= fun source =>
      Attempt.ofExcept ((next source).mapError story.blame) :
        Attempt (StateM τ) (Session σ)) s).1 = .ok session ↔
      next (host.source story.text seed s).1 = .ok session := by
  have hsource : (ExceptT.lift (host.source story.text seed) : Attempt (StateM τ) _) s =
      (.ok (host.source story.text seed s).1, (host.source story.text seed s).2) := rfl
  rw [Attempt.bind_ok hsource]
  cases hresult : next (host.source story.text seed s).1 with
  | error fault => exact ⟨fun h => (by cases h), fun h => (by cases h)⟩
  | ok found => exact Iff.rfl

/-- A new session is created from the text of its story. -/
theorem newSession_ok_iff {start : Option String} :
    (story.newSession host start seed s).1 = .ok session ↔
      Session.create host.engine (host.source story.text seed s).1 start = .ok session :=
  of_source _

/-- A session that goes on is resumed from the text of its story and the save. -/
theorem resumeSession_ok_iff {state : PlayerState} :
    (story.resumeSession host state s).1 = .ok session ↔
      Session.resume host.engine (host.source story.text state.seed s).1 state.save =
        .ok session :=
  of_source _

end StoryFile

theorem Boundary.mem_optional {tag line : String} {text : Option String} :
    line ∈ optional tag text ↔
      ∃ shown, text = some shown ∧ line = tag ++ ":" ++ Json.quote shown := by
  cases text with
  | none => simp [optional]
  | some shown => simp [optional]

/-- A boundary says why the player has not moved. -/
theorem Boundary.report_blocked {boundary : Boundary} {reason : String}
    (h : boundary.blocked = some reason) (stateOut : String) :
    ∃ before behind, boundary.report stateOut =
      before ++ ("NAV_ERROR_JSON:" ++ Json.quote reason) :: behind := by
  refine List.append_of_mem ?_
  have hline : "NAV_ERROR_JSON:" ++ Json.quote reason ∈
      optional "NAV_ERROR_JSON" boundary.blocked := mem_optional.mpr ⟨reason, h, rfl⟩
  simp only [report, List.mem_append]
  exact .inl (.inl (.inl (.inr hline)))

/-! ## Commands -/

namespace Command

/-- The state file that a step for programs goes on from. -/
def stateIn? : Command → Option String
  | .choose stateIn _ _ | .trigger stateIn _ _ _ => some stateIn
  | .start .. | .play .. | .list _ => none

/-- The state file that a step for programs writes. -/
def stateOut? : Command → Option String
  | .start _ _ _ stateOut | .choose _ _ stateOut | .trigger _ _ _ stateOut => some stateOut
  | .play .. | .list _ => none

/-- What a step for programs does with the session that it opens; the first step shows it. -/
def step {σ : Type} (E : Engine σ) : Command → Agent.Step σ
  | .choose _ optionId _ => Agent.choosing E optionId
  | .trigger _ eventId args _ => Agent.triggering E eventId (args.map Value.ofTyped)
  | .start .. | .play .. | .list _ => Boundary.ofSession E

/-- The session after the choice or the event of a step, before it is shown. -/
def acted {σ : Type} (E : Engine σ) (session : Session σ) : Command → Session σ
  | .choose _ optionId _ => (session.choose E optionId).2
  | .trigger _ eventId args _ => (session.trigger E eventId (args.map Value.ofTyped)).2
  | .start .. | .play .. | .list _ => session

/-- A step fails, or it shows the session after its choice or event. -/
theorem step_cases {σ : Type} {E : Engine σ} {session : Session σ} (command : Command)
    (hat : session.AtCursor) :
    (∃ fault failed, command.step E session = (.error fault, failed)) ∨
      ∃ boundary final, command.step E session = (.ok boundary, final) ∧
        boundary.Shows E (command.acted E session) final := by
  cases command with
  | choose stateIn optionId stateOut =>
    rcases hchoose : session.choose E optionId with ⟨fault | followed, chosen⟩
    · exact .inl ⟨fault, chosen, Agent.choosing_fails hchoose⟩
    · obtain ⟨boundary, final, hstep, hshows, -⟩ := Agent.choosing_shows hat hchoose
      refine .inr ⟨boundary, final, hstep, ?_⟩
      rwa [acted, hchoose]
  | trigger stateIn eventId args stateOut =>
    exact .inr (Agent.triggering_shows hat eventId (args.map Value.ofTyped))
  | start | play | list =>
    obtain ⟨boundary, final, hstep, hshows, -⟩ := hat.ofSession E
    exact .inr ⟨boundary, final, hstep, hshows⟩

end Command

/-- The engine for scripts, with the files of a disk. -/
def Disk.host (clock : StateM Disk Clock) : Host (StateM Disk) Interpreter where
  engine := Script.engine
  fresh := .seeded
  files := Disk.files
  clock := clock

namespace Agent

variable {σ : Type} {host : Host (StateM Disk) σ} {disk after : Disk} {command : Command}
  {stateIn stateOut : String} {story : StoryFile} {seed : Option UInt32}
  {session final : Session σ} {boundary : Boundary}

/-- The story file, the seed and the session that a command opens on a disk: a first step finds its
story and creates a session, every other step goes on from a state file. -/
inductive Opens (host : Host (StateM Disk) σ) (disk : Disk) :
    Command → StoryFile → Option UInt32 → Session σ → Prop where
  | start {place : StoryPlace} {sectionId : Option String} {seed : Option UInt32}
    {stateOut : String} {story : StoryFile} {session : Session σ}
    (hfind : (place.find host.files disk).1 = .ok story)
    (hsession : (story.newSession host sectionId seed disk).1 = .ok session) :
    Opens host disk (.start place sectionId seed stateOut) story seed session
  | goOn {command : Command} {stateIn : String} {state : PlayerState} {story : StoryFile}
    {session : Session σ} (hin : command.stateIn? = some stateIn)
    (hread : (PlayerState.read host.files stateIn disk).1 = .ok state)
    (hfind : (Shelf.ofRef host.files state.storyRef disk).1 = .ok story)
    (hsession : (story.resumeSession host state disk).1 = .ok session) :
    Opens host disk command story state.seed session

/-- The story file and the seed are those that the command was given: at its place and in its words,
or in the state that it goes on from. If the path of that state's story is one from the root, the
story file is found under the same reference. -/
structure Given (disk : Disk) (command : Command) (story : StoryFile) (seed : Option UInt32) :
    Prop where
  begun {place : StoryPlace} {sectionId : Option String} {given : Option UInt32} {stateOut : String}
    (h : command = .start place sectionId given stateOut) :
    (place.find Disk.files disk).1 = .ok story ∧ seed = given
  goneOn {stateIn : String} (h : command.stateIn? = some stateIn) :
    ∃ state, PlayerState.read Disk.files stateIn disk = (.ok state, disk) ∧ seed = state.seed ∧
      (Shelf.ofRef Disk.files state.storyRef disk).1 = .ok story ∧
      ∀ path, state.storyRef = Shelf.refStart ++ path → Path.isAbsolute path = true →
        story.ref = state.storyRef

/-- The session that a command opens was created, or goes on from a save. -/
theorem Opens.opened (h : Opens host disk command story seed session) :
    session.Opened host.engine := by
  cases h with
  | start hfind hsession => exact .created (StoryFile.newSession_ok_iff.mp hsession)
  | goOn hin hread hfind hsession => exact .resumed (StoryFile.resumeSession_ok_iff.mp hsession)

/-- A command opens no more than one session. -/
theorem Opens.unique {story' : StoryFile} {seed' : Option UInt32} {session' : Session σ}
    (h : Opens host disk command story seed session)
    (h' : Opens host disk command story' seed' session') :
    story' = story ∧ seed' = seed ∧ session' = session := by
  cases h with
  | start hfind hsession =>
    cases h' with
    | start hfind' hsession' =>
      obtain rfl := Except.ok.inj (hfind.symm.trans hfind')
      exact ⟨rfl, rfl, Except.ok.inj (hsession'.symm.trans hsession)⟩
    | goOn hin => cases hin
  | goOn hin hread hfind hsession =>
    cases h' with
    | start => cases hin
    | goOn hin' hread' hfind' hsession' =>
      obtain rfl := Option.some.inj (hin.symm.trans hin')
      obtain rfl := Except.ok.inj (hread.symm.trans hread')
      obtain rfl := Except.ok.inj (hfind.symm.trans hfind')
      exact ⟨rfl, rfl, Except.ok.inj (hsession'.symm.trans hsession)⟩

/-- The end of a command that has carried out an attempt, with the disk after it. -/
def settled (carried : Except Fault (List String) × Disk) : Opening σ × Disk :=
  (.ended (CommandLine.ended carried.1), carried.2)

theorem openCommand_start (host : Host (StateM Disk) σ) (place : StoryPlace)
    (sectionId : Option String) (seed : Option UInt32) (stateOut : String) (disk : Disk) :
    CommandLine.openCommand host (.start place sectionId seed stateOut) disk =
      settled ((place.find host.files >>= fun story =>
        start host story sectionId seed stateOut : Attempt (StateM Disk) _) disk) := rfl

theorem openCommand_goOn (hin : command.stateIn? = some stateIn)
    (hout : command.stateOut? = some stateOut) :
    CommandLine.openCommand host command disk =
      settled (goOn host stateIn stateOut (command.step host.engine) disk) := by
  cases command with
  | choose | trigger =>
    obtain rfl := Option.some.inj hin
    obtain rfl := Option.some.inj hout
    rfl
  | start | play | list => cases hin

section Disk

variable (hfiles : host.files = Disk.files)
include hfiles

/-- A command that opens a session plays on it, writes its state and reports what is shown. -/
theorem openCommand_opens (hclock : seed = none → ∀ disk, (host.clock disk).2 = disk)
    (hout : command.stateOut? = some stateOut)
    (h : Opens host disk command story seed session) :
    CommandLine.openCommand host command disk =
      settled (finish host stateOut story.ref seed (command.step host.engine session) disk) := by
  cases h with
  | start hfind hsession =>
    obtain rfl := Option.some.inj hout
    rw [hfiles] at hfind
    have hstory := Attempt.eq_of_asks (StoryPlace.asks_find _) hfind
    have hnew := Attempt.eq_of_asks (StoryFile.asks_newSession _ _ hclock) hsession
    rw [openCommand_start, hfiles, Attempt.bind_ok hstory, start, Attempt.bind_ok hnew]
    rfl
  | goOn hin hread hfind hsession =>
    rw [hfiles] at hread hfind
    have hstate := Attempt.eq_of_asks (PlayerState.asks_read _) hread
    have hstory := Attempt.eq_of_asks (Shelf.asks_ofRef _) hfind
    have hresumed := Attempt.eq_of_asks (StoryFile.asks_resumeSession _ hclock) hsession
    rw [openCommand_goOn hin hout, goOn, hfiles, Attempt.bind_ok hstate, Attempt.bind_ok hstory,
      Attempt.bind_ok hresumed]

/-- A command that opens no session fails and changes nothing. -/
theorem openCommand_shut (hclock : ∀ disk, (host.clock disk).2 = disk)
    (hout : command.stateOut? = some stateOut)
    (h : ∀ story seed session, ¬ Opens host disk command story seed session) :
    ∃ fault, CommandLine.openCommand host command disk =
      (.ended (CommandLine.failed "" fault), disk) := by
  have hgoOn {stateIn : String} (hin : command.stateIn? = some stateIn) :
      ∃ fault, goOn host stateIn stateOut (command.step host.engine) disk =
        (.error fault, disk) := by
    rw [goOn, Attempt.bind_asks (hfiles ▸ PlayerState.asks_read stateIn)]
    cases hread : (PlayerState.read host.files stateIn disk).1 with
    | error fault => exact ⟨fault, rfl⟩
    | ok state =>
      dsimp only
      rw [Attempt.bind_asks (hfiles ▸ Shelf.asks_ofRef state.storyRef)]
      cases hfind : (Shelf.ofRef host.files state.storyRef disk).1 with
      | error fault => exact ⟨fault, rfl⟩
      | ok story =>
        dsimp only
        rw [Attempt.bind_asks (StoryFile.asks_resumeSession story fun _ => hclock)]
        cases hsession : (story.resumeSession host state disk).1 with
        | error fault => exact ⟨fault, rfl⟩
        | ok session => exact absurd (.goOn hin hread hfind hsession) (h _ _ _)
  cases command with
  | start place sectionId seed out =>
    rw [openCommand_start, Attempt.bind_asks (hfiles ▸ place.asks_find)]
    cases hfind : (place.find host.files disk).1 with
    | error fault => exact ⟨fault, rfl⟩
    | ok story =>
      dsimp only
      rw [start, Attempt.bind_asks (StoryFile.asks_newSession story sectionId fun _ => hclock)]
      cases hsession : (story.newSession host sectionId seed disk).1 with
      | error fault => exact ⟨fault, rfl⟩
      | ok session => exact absurd (.start hfind hsession) (h _ _ _)
  | choose | trigger =>
    obtain ⟨fault, hfault⟩ := hgoOn rfl
    exact ⟨fault, (openCommand_goOn rfl hout).trans (congrArg settled hfault)⟩
  | play | list => cases hout

end Disk

/-- What a command leaves that fails: it has printed the three lines of a fault, and every file is
what it was. -/
structure Failed (disk : Disk) (ending : Ending) (after : Disk) : Prop where
  code : ending.code = 1
  output : ∃ code message, ending.output = LineMode.textOf
    ["RESULT:ERROR", "ERROR_CODE:" ++ code, "ERROR_MSG_JSON:" ++ Json.quote message]
  files : disk.SameFiles after

/-- The lines of a step that succeeds: what it has left to say, and the section as it is viewed. -/
def linesOf (view : SectionView) (sectionId : String) (remarks : List String) (stateOut : String) :
    List String :=
  ["RESULT:OK", if view.offers.isEmpty then "EVENT:END" else "EVENT:OPTIONS"] ++ remarks
    ++ ["SECTION:" ++ sectionId, "TITLE_JSON:" ++ Json.quote view.title,
      "TEXT_JSON:" ++ Json.quote view.text]
    ++ view.offers.map (fun offer => "OPTION:" ++ offer.id ++ "|" ++ Json.quote offer.text)
    ++ ["STATE_OUT:" ++ stateOut]

/-- What a command leaves that succeeds, with the session after its choice or event, and after it
was viewed. -/
structure Succeeded (E : Engine σ) (disk : Disk) (stateOut storyRef : String)
    (seed : Option UInt32) (acted final : Session σ) (ending : Ending) (after : Disk) : Prop where
  code : ending.code = 0
  output : ∃ view remarks, acted.view E = (.ok view, final) ∧
    (∀ line ∈ remarks, ∃ tag ∈ ["MESSAGE_JSON:", "NOTIFY_JSON:", "NAV_ERROR_JSON:"],
      ∃ text, line = tag ++ Json.quote text) ∧
    ending.output = LineMode.textOf (linesOf view (final.save E).sectionId remarks stateOut)
  /-- The state file holds the state of the session, and gives it back. -/
  state : after.read stateOut = .ok (Player.stateOf E storyRef seed final).toJson.indented ∧
    ((final.save E).Lasts → PlayerState.read Disk.files stateOut after =
      (.ok (Player.stateOf E storyRef seed final), after))
  /-- No other file has changed. -/
  files : ∃ target text, disk.SameFilesBut target text after

theorem failed_of_fault {ending : Ending} {fault : Fault}
    (hending : ending = CommandLine.failed "" fault) (hfiles : disk.SameFiles after) :
    Failed disk ending after := by
  subst hending
  refine ⟨rfl, ⟨fault.code, fault.message, ?_⟩, hfiles⟩
  rw [CommandLine.failed, String.empty_append, Fault.report]

/-- The lines of a boundary that shows a session. -/
theorem report_shows {acted : Session σ} (h : boundary.Shows host.engine acted final)
    (stateOut : String) :
    ∃ view remarks, acted.view host.engine = (.ok view, final) ∧
      (∀ line ∈ remarks, ∃ tag ∈ ["MESSAGE_JSON:", "NOTIFY_JSON:", "NAV_ERROR_JSON:"],
        ∃ text, line = tag ++ Json.quote text) ∧
      boundary.report stateOut =
        linesOf view (final.save host.engine).sectionId remarks stateOut := by
  obtain ⟨⟨view, hview, htitle, htext, hoffers⟩, hsection⟩ := h
  refine ⟨view, Boundary.optional "MESSAGE_JSON" boundary.message
    ++ Boundary.optional "NOTIFY_JSON" boundary.notice
    ++ Boundary.optional "NAV_ERROR_JSON" boundary.blocked, hview, ?_, ?_⟩
  · intro line hline
    simp only [List.mem_append, Boundary.mem_optional] at hline
    obtain (⟨text, -, rfl⟩ | ⟨text, -, rfl⟩) | ⟨text, -, rfl⟩ := hline
    · exact ⟨"MESSAGE_JSON:", by simp, text, rfl⟩
    · exact ⟨"NOTIFY_JSON:", by simp, text, rfl⟩
    · exact ⟨"NAV_ERROR_JSON:", by simp, text, rfl⟩
  · rw [Boundary.report, Boundary.isEnd, linesOf, htitle, htext, hoffers, hsection]
    simp only [List.append_assoc]
    rfl

section Disk

variable (hfiles : host.files = Disk.files) (hclock : ∀ disk, (host.clock disk).2 = disk)
include hfiles

/-- A step that was taken succeeds if its state can be written. If not, it fails, and every file is
what it was. -/
theorem finish_shown (boundary : Boundary) (final : Session σ) (storyRef : String)
    (seed : Option UInt32) (stateOut : String) (disk : Disk) :
    (∃ after, disk.keep stateOut
        (Player.stateOf host.engine storyRef seed final).toJson.indented = .ok after ∧
      finish host stateOut storyRef seed (.ok boundary, final) disk =
        (.ok (boundary.report stateOut), after)) ∨
    (∀ kept, disk.keep stateOut
        (Player.stateOf host.engine storyRef seed final).toJson.indented ≠ .ok kept) ∧
      ∃ fault after, finish host stateOut storyRef seed (.ok boundary, final) disk =
        (.error fault, after) ∧ disk.SameFiles after := by
  have hshow : (Attempt.ofExcept (.ok boundary) : Attempt (StateM Disk) Boundary) disk =
      (.ok boundary, disk) := rfl
  rw [finish, hfiles, Attempt.bind_ok hshow]
  obtain ⟨after, hkeep, hwrite⟩ | ⟨hnone, reason, after, hwrite, hsame⟩ :=
    (Player.stateOf host.engine storyRef seed final).write_cases stateOut disk
  · rw [Attempt.bind_ok hwrite]
    exact .inl ⟨after, hkeep, rfl⟩
  · rw [Attempt.bind_error hwrite]
    exact .inr ⟨hnone, _, after, rfl, hsame⟩

/-- A step writes its state and succeeds, or it fails, and every file is what it was. -/
theorem finish_cases {acted : Session σ} {shown : Except Fault Boundary × Session σ}
    (hshown : (∃ fault failed, shown = (.error fault, failed)) ∨
      ∃ boundary final, shown = (.ok boundary, final) ∧ boundary.Shows host.engine acted final)
    (storyRef : String) (seed : Option UInt32) (stateOut : String) (disk : Disk) :
    ∃ ending after, (settled (finish host stateOut storyRef seed shown disk) : Opening σ × Disk) =
        (.ended ending, after) ∧
      (Failed disk ending after ∨
        Succeeded host.engine disk stateOut storyRef seed acted shown.2 ending after) := by
  obtain ⟨fault, failed, rfl⟩ | ⟨boundary, final, rfl, hshows⟩ := hshown
  · exact ⟨_, _, rfl, .inl (failed_of_fault rfl (.refl disk))⟩
  · obtain ⟨after, hkeep, hfinish⟩ | ⟨-, fault, after, hfinish, hsame⟩ :=
      finish_shown hfiles boundary final storyRef seed stateOut disk
    · obtain ⟨view, remarks, hview, hremarks, hreport⟩ := report_shows hshows stateOut
      obtain ⟨target, hbut⟩ := Disk.sameFilesBut_keep hkeep
      have hread := Disk.read_keep hkeep
      rw [hfinish]
      refine ⟨_, after, rfl, .inr ⟨rfl, ⟨view, remarks, hview, hremarks, ?_⟩, ⟨hread, ?_⟩,
        target, _, hbut⟩⟩
      · exact congrArg LineMode.textOf hreport
      · exact fun hlasts => PlayerState.read_files hread (PlayerState.accept_lasts rfl hlasts)
    · rw [hfinish]
      exact ⟨_, after, rfl, .inl (failed_of_fault rfl hsame)⟩

/-- A command that opens a session succeeds if its step does and its state can be written. -/
theorem openCommand_shows (hclock : seed = none → ∀ disk, (host.clock disk).2 = disk)
    (hout : command.stateOut? = some stateOut)
    (hopens : Opens host disk command story seed session)
    (hstep : command.step host.engine session = (.ok boundary, final))
    (hkeep : disk.keep stateOut
      (Player.stateOf host.engine story.ref seed final).toJson.indented = .ok after) :
    CommandLine.openCommand host command disk =
      (.ended { output := LineMode.textOf (boundary.report stateOut), code := 0 }, after) := by
  rw [openCommand_opens hfiles hclock hout hopens, hstep]
  obtain ⟨after', hkeep', hfinish⟩ | ⟨hnone, -⟩ :=
    finish_shown hfiles boundary final story.ref seed stateOut disk
  · obtain rfl := Except.ok.inj (hkeep.symm.trans hkeep')
    rw [hfinish]
    rfl
  · exact absurd hkeep (hnone after)

/-- What a session is opened with is what the command was given. -/
theorem Opens.given (h : Opens host disk command story seed session) :
    Given disk command story seed := by
  cases h with
  | start hfind hsession =>
    refine ⟨fun hcommand => ?_, fun hin => by cases hin⟩
    cases hcommand
    exact ⟨hfiles ▸ hfind, rfl⟩
  | goOn hin hread hfind hsession =>
    rw [hfiles] at hread hfind
    refine ⟨fun hcommand => ?_, fun hin' => ?_⟩
    · rw [hcommand] at hin
      cases hin
    · obtain rfl := Option.some.inj (hin.symm.trans hin')
      refine ⟨_, Attempt.eq_of_asks (PlayerState.asks_read _) hread, rfl, hfind, ?_⟩
      intro path href habsolute
      have hstory := Attempt.eq_of_asks (Shelf.asks_ofRef _) hfind
      rw [href, Shelf.ofRef, Text.afterStart?_append] at hstory
      obtain ⟨text, -, rfl, -⟩ := Shelf.ofPath_ok hstory
      rw [StoryFile.ofText, Path.join, if_pos habsolute, href]

omit hfiles in
/-- A command line that asks for a command does what the command does. -/
theorem run_request {words : List String} {request : Command.Request}
    (hwords : Command.requestOf words = .ok request) {level : LogLevel}
    (hlevel : LogLevel.ofText request.logLevel = .ok level) {ending : Ending}
    (h : CommandLine.openCommand host request.command disk = (.ended ending, after))
    (input : String) : CommandLine.run host words input disk = (ending, after) := by
  have hopening : CommandLine.opening host words disk = (.ended ending, after) := by
    rw [CommandLine.opening, hwords]
    dsimp only
    rw [hlevel]
    exact h
  simp only [CommandLine.run, bind, StateT.bind, hopening]
  rfl

omit hfiles in
/-- A command line with a log level that is none does nothing. -/
theorem run_unheeded {words : List String} {request : Command.Request}
    (hwords : Command.requestOf words = .ok request) {fault : Fault}
    (hlevel : LogLevel.ofText request.logLevel = .error fault) (input : String) :
    CommandLine.run host words input disk = (CommandLine.failed "" fault, disk) := by
  have hopening : CommandLine.opening host words disk =
      (.ended (CommandLine.failed "" fault), disk) := by
    rw [CommandLine.opening, hwords]
    dsimp only
    rw [hlevel]
    rfl
  simp only [CommandLine.run, bind, StateT.bind, hopening]
  rfl

include hclock

/-- What comes of a command: it fails, or it succeeds with the session that it opens. -/
theorem openCommand_cases (hout : command.stateOut? = some stateOut) (disk : Disk) :
    ∃ ending after, CommandLine.openCommand host command disk = (.ended ending, after) ∧
      (Failed disk ending after ∨ ∃ story seed session,
        Opens host disk command story seed session ∧
        Succeeded host.engine disk stateOut story.ref seed (command.acted host.engine session)
          (command.step host.engine session).2 ending after) := by
  by_cases hopens : ∃ story seed session, Opens host disk command story seed session
  · obtain ⟨story, seed, session, hopens⟩ := hopens
    rw [openCommand_opens hfiles (fun _ => hclock) hout hopens]
    obtain ⟨ending, after, hfinish, hcases⟩ := finish_cases hfiles
      (command.step_cases hopens.opened.atCursor) story.ref seed stateOut disk
    refine ⟨ending, after, hfinish, hcases.imp_right fun hok => ?_⟩
    exact ⟨story, seed, session, hopens, hok⟩
  · obtain ⟨fault, hshut⟩ := openCommand_shut hfiles hclock hout
      fun story seed session h => hopens ⟨story, seed, session, h⟩
    exact ⟨_, disk, hshut, .inl (failed_of_fault rfl (.refl disk))⟩

/-- A choice that leads nowhere is reported by a command that succeeds. -/
theorem openCommand_blocked {optionId : String} {followed : Followed} {chosen : Session σ}
    {fault : Fault}
    (hopens : Opens host disk (.choose stateIn optionId stateOut) story seed session)
    (hchoose : session.choose host.engine optionId = (.ok followed, chosen))
    (hblocked : followed.navigation = .blocked fault)
    (hkeep : disk.keep stateOut (Player.stateOf host.engine story.ref seed
      (chosen.view host.engine).2).toJson.indented = .ok after) :
    ∃ boundary : Boundary, boundary.blocked = some fault.message ∧
      CommandLine.openCommand host (.choose stateIn optionId stateOut) disk =
        (.ended { output := LineMode.textOf (boundary.report stateOut), code := 0 }, after) := by
  obtain ⟨boundary, final, hstep, ⟨⟨view, hview, -⟩, -⟩, hreported⟩ :=
    choosing_shows hopens.opened.atCursor hchoose
  refine ⟨boundary, hreported fault hblocked, ?_⟩
  have hcommand : Command.step host.engine (.choose stateIn optionId stateOut) session =
      (.ok boundary, final) := hstep
  rw [hview] at hkeep
  exact openCommand_shows hfiles (fun _ => hclock) rfl hopens hcommand hkeep

/-- Commands do all or nothing. One that ends with 1 has printed the lines of a fault, and every
file is what it was. One that ends with 0 has printed the section and the options of a session as it
was viewed, and its state file gives back the state of this very session, with the seed and the
story that the command was given. Nothing else happens, and a choice that leads nowhere is a
success. -/
theorem command_atomic {words : List String} {request : Command.Request}
    (hwords : Command.requestOf words = .ok request)
    (hout : request.command.stateOut? = some stateOut) (input : String) (disk : Disk) :
    ∃ ending after, CommandLine.run host words input disk = (ending, after) ∧
      (Failed disk ending after ∨ ∃ story seed session,
        Opens host disk request.command story seed session ∧
        Given disk request.command story seed ∧
        Succeeded host.engine disk stateOut story.ref seed
          (request.command.acted host.engine session)
          (request.command.step host.engine session).2 ending after) ∧
      ∀ story seed session stateIn optionId followed chosen fault level kept,
        request.command = .choose stateIn optionId stateOut →
        LogLevel.ofText request.logLevel = .ok level →
        Opens host disk request.command story seed session →
        session.choose host.engine optionId = (.ok followed, chosen) →
        followed.navigation = .blocked fault →
        disk.keep stateOut (Player.stateOf host.engine story.ref seed
          (chosen.view host.engine).2).toJson.indented = .ok kept →
        ending.code = 0 ∧ ∃ before behind, ending.output =
          LineMode.textOf
            (before ++ ("NAV_ERROR_JSON:" ++ Json.quote fault.message) :: behind) := by
  cases hlevel : LogLevel.ofText request.logLevel with
  | error fault =>
    refine ⟨_, disk, run_unheeded hwords hlevel input, .inl (failed_of_fault rfl (.refl disk)), ?_⟩
    intro _ _ _ _ _ _ _ _ _ _ _ hlevel'
    cases hlevel'
  | ok level =>
    obtain ⟨ending, after, hrun, hcases⟩ := openCommand_cases hfiles hclock hout disk
    refine ⟨ending, after, run_request hwords hlevel hrun input, hcases.imp_right ?_, ?_⟩
    · rintro ⟨story, seed, session, hopens, hok⟩
      exact ⟨story, seed, session, hopens, hopens.given hfiles, hok⟩
    · intro story seed session stateIn optionId followed chosen fault _ kept hcommand _ hopens
        hchoose hblocked hkeep
      rw [hcommand] at hopens hrun
      obtain ⟨boundary, hreported, hrun'⟩ :=
        openCommand_blocked hfiles hclock hopens hchoose hblocked hkeep
      obtain ⟨hending, -⟩ := Prod.mk.inj (hrun.symm.trans hrun')
      obtain rfl := Opening.ended.inj hending
      refine ⟨rfl, ?_⟩
      obtain ⟨before, behind, hlines⟩ := Boundary.report_blocked hreported stateOut
      exact ⟨before, behind, congrArg LineMode.textOf hlines⟩

end Disk

/-! ## A choice that leads nowhere -/

/-- A hall with a door to a section that does not exist. -/
def hallOfDoors : String :=
  "sections: \x7bhall: \x7btext: Hall, options: \x7bdoor: [Door, cellar]\x7d\x7d\x7d"

/-- The state of a game in the hall. -/
def stateInHall : String :=
  "\x7b\"schemaVersion\": \"codex-player.v1\", \"storyRef\": \"story-file:/story.yaml\", " ++
    "\"seed\": 7, \"save\": \x7b\"schemaVersion\": \"codex-save.v1\", \"storyTitle\": \"\", " ++
    "\"sectionId\": \"hall\", \"globals\": \x7b\x7d\x7d\x7d"

/-- A disk with a story and the state of a game. -/
def halfway : Disk :=
  ⟨.folder [("state.json", .file (some stateInHall)),
    ("story.yaml", .file (some hallOfDoors))], "/"⟩

theorem isTop_state : Path.IsTop "/" "/state.json" "state.json" := by
  constructor <;> decide +kernel

/-- A choice has led nowhere, as it can be worked out. -/
def isBlocked : Except Fault Followed → Bool
  | .ok ⟨.blocked _, _, _⟩ => true
  | _ => false

theorem blocked_of_isBlocked {result : Except Fault Followed} (h : isBlocked result = true) :
    ∃ followed fault, result = .ok followed ∧ followed.navigation = .blocked fault := by
  unfold isBlocked at h
  split at h
  · next fault notice redirected => exact ⟨_, fault, rfl, rfl⟩
  · cases h

/-- What a choice of the door opens: the state file is read, and goes on in the hall. -/
theorem opens_halfway :
    ∃ session, Opens (Disk.host (pure 0)) halfway (.choose "/state.json" "door" "/state.json")
        (.ofText "/story.yaml" hallOfDoors) (some 7) session ∧
      isBlocked (session.choose Script.engine "door").1 = true ∧
      (((session.choose Script.engine "door").2.view Script.engine).2.save Script.engine).Lasts ∧
      ((session.choose Script.engine "door").2.view Script.engine).2.current = "hall" := by
  have hany : (PlayerState.accept stateInHall).toOption.any (fun state =>
      state.storyRef == "story-file:/story.yaml" && state.seed == some 7 &&
        (Session.resume Script.engine ⟨hallOfDoors, .seeded 7⟩ state.save).toOption.any
          fun session => isBlocked (session.choose Script.engine "door").1 &&
            (fun final => (final.save Script.engine).isPlain (Json.depthLimit - 5) &&
              final.current == "hall")
            ((session.choose Script.engine "door").2.view Script.engine).2) = true := by
    decide +kernel
  obtain ⟨state, hstate, htest⟩ := (Option.any_eq_true ..).mp hany
  simp only [Bool.and_eq_true, beq_iff_eq] at htest
  obtain ⟨⟨href, hseed⟩, hresumed⟩ := htest
  obtain ⟨session, hsession, hchosen⟩ := (Option.any_eq_true ..).mp hresumed
  simp only [Bool.and_eq_true, beq_iff_eq] at hchosen
  obtain ⟨hblocked, hplain, hcurrent⟩ := hchosen
  have hread : (PlayerState.read Disk.files "/state.json" halfway).1 = .ok state :=
    congrArg Prod.fst
      (PlayerState.read_files (Disk.read_top isTop_state rfl) (toOption_eq_some hstate))
  have hstory : (Shelf.ofRef Disk.files state.storyRef halfway).1 =
      .ok (.ofText "/story.yaml" hallOfDoors) := by
    have htop : Path.IsTop "/" "/story.yaml" "story.yaml" := by constructor <;> decide +kernel
    rw [href]
    exact congrArg Prod.fst (Shelf.ofRef_files (by decide) (Disk.read_top htop rfl))
  have hresume : ((StoryFile.ofText "/story.yaml" hallOfDoors).resumeSession
      (Disk.host (pure 0)) state halfway).1 = .ok session := by
    rw [StoryFile.resumeSession_ok_iff, hseed]
    exact toOption_eq_some hsession
  exact ⟨session, hseed ▸ .goOn rfl hread hstory hresume, hblocked,
    Save.lasts_of_isPlain hplain, hcurrent⟩

/-- The words of a choice that writes the file it has read. -/
def knock : List String :=
  ["agent", "choose", "--state-in", "/state.json", "--option", "door", "--state-out", "/state.json"]

/-- Knocking at the door is a success that leads nowhere, and the state file is written anew. -/
theorem command_atomic_knock :
    ∃ ending after state, CommandLine.run (Disk.host (pure 0)) knock "" halfway = (ending, after) ∧
      ending.code = 0 ∧
      (∃ before reason behind, ending.output =
        LineMode.textOf (before ++ ("NAV_ERROR_JSON:" ++ Json.quote reason) :: behind)) ∧
      PlayerState.read Disk.files "/state.json" after = (.ok state, after) ∧
      state.seed = some 7 ∧ state.storyRef = "story-file:/story.yaml" ∧
      state.save.sectionId = "hall" := by
  obtain ⟨session, hopens, hblocked, hlasts, hcurrent⟩ := opens_halfway
  obtain ⟨followed, fault, hfollowed, hfault⟩ := blocked_of_isBlocked hblocked
  obtain ⟨kept, hkeep⟩ : ∃ kept, halfway.keep "/state.json" (Player.stateOf Script.engine
      (StoryFile.ofText "/story.yaml" hallOfDoors).ref (some 7)
      ((session.choose Script.engine "door").2.view Script.engine).2).toJson.indented =
        .ok kept :=
    ⟨_, Disk.keep_top isTop_state (by simp [Fields.find?]) _⟩
  have hwords : Command.requestOf knock =
      .ok ⟨"warn", .choose "/state.json" "door" "/state.json"⟩ := rfl
  obtain ⟨ending, after, hrun, hends, hreports⟩ := command_atomic
    (show (Disk.host (pure 0)).files = Disk.files from rfl) (fun _ => rfl) hwords rfl "" halfway
  obtain ⟨hcode, before, behind, houtput⟩ := hreports _ _ _ _ _ followed _ fault .warn kept rfl rfl
    hopens (Prod.ext hfollowed rfl) hfault hkeep
  obtain hfailed | ⟨story, seed, session', hopens', -, hok⟩ := hends
  · rw [hfailed.code] at hcode
    cases hcode
  · obtain ⟨rfl, rfl, rfl⟩ := hopens.unique hopens'
    obtain ⟨view, -, hview, -⟩ := hok.output
    have hfinal := congrArg Prod.snd hview
    have hsame : (StoryFile.ofText "/story.yaml" hallOfDoors).ref = "story-file:/story.yaml" := by
      decide
    have hloads := hok.state.2
    rw [← hfinal] at hloads
    exact ⟨ending, after, _, hrun, hcode, ⟨before, fault.message, behind, houtput⟩,
      hloads hlasts, rfl, hsame, hcurrent⟩

end Agent

end Gamebook
