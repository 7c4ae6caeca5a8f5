import Gamebook.Proofs.Commands

/-!
# Games in line mode

A line does at most one deed: it chooses an option, triggers an event, starts over, loads or saves.
Everything else is answered from what is there already. Since every session can be shown, whatever
a deed has done to it, no line ends the game but one that quits; and what fails is told, with the
player where he was.

* `LineMode.Deed`, `LineMode.deed?` : what lines do, and what a line does.
* `LineMode.Turn` : one line, and what may come of it.
* `LineMode.answer_turn` : every line is answered by a turn.
* `LineMode.play_goes` : every game goes on, turn by turn, until its lines end or the player leaves.
-/

namespace Gamebook

namespace LineMode

/-! ## Deeds -/

/-- What a line can do to a session and to the state file. -/
inductive Deed where
  | choose (optionId : String)
  | trigger (event : String) (args : List Value)
  | restart
  | load
  | save

/-- What a command does; most only tell something. -/
def commanded? : LineCommand → Option Deed
  | .save => some .save
  | .load => some .load
  | .restart => some .restart
  | .trigger (some event) args => some (.trigger event args)
  | .trigger none _ | .help | .state | .quit | .unknown _ => none

/-- The player leaves with this command. -/
def leaves : LineCommand → Bool
  | .quit => true
  | _ => false

/-- What is told of a command that does nothing because of a mistake in it. -/
def mistaken? : LineCommand → Option String
  | .unknown word => some ("unknown command: " ++ word)
  | .trigger none _ => some "usage: :trigger <event> [args...]"
  | _ => none

/-- What a line does under a boundary. -/
def deed? (boundary : Boundary) (line : String) : Option Deed :=
  match LineCommand.ofLine? (Text.trim line) with
  | some command => commanded? command
  | none =>
    if Text.trim line = "" then none else (boundary.pick? (Text.trim line)).map .choose

/-- The player leaves with this line. -/
def quits (line : String) : Bool := (LineCommand.ofLine? (Text.trim line)).any leaves

/-- What is told of a line that does nothing because of a mistake in it. -/
def mistake? (boundary : Boundary) (line : String) : Option String :=
  match LineCommand.ofLine? (Text.trim line) with
  | some command => mistaken? command
  | none =>
    if Text.trim line = "" ∨ (boundary.pick? (Text.trim line)).isSome then none
    else some ("no such option: " ++ Text.trim line)

variable {m : Type → Type} [Monad m] {σ τ : Type}

/-- Does a deed: whether it succeeds, and the session after it. -/
def Deed.perform (host : Host m σ) (player : Player) (session : Session σ) :
    Deed → m (Except Fault Unit × Session σ)
  | .choose optionId =>
    pure ((session.choose host.engine optionId).1.map fun _ => (),
      (session.choose host.engine optionId).2)
  | .trigger event args => pure (.ok (), (session.trigger host.engine event args).2)
  | .restart => pure (session.restart host.engine)
  | .load => do
    match ← (player.load host).run with
    | .ok loaded => pure (.ok (), loaded)
    | .error fault => pure (.error fault, session)
  | .save => keeping session (player.save host session)

/-! ## Turns -/

/-- What comes of one line: nothing is done, or one deed is done and fails, or it succeeds; and what
the player is told of it. The state is that of the files. -/
inductive Turn (host : Host (StateM τ) σ) (player : Player) (line : String) (before : LineGame σ)
    (s : τ) : Answer σ → τ → Prop where
  /-- The game stays as it is. It is over if the player leaves. -/
  | idle {answer : Answer σ} (hdeed : deed? before.boundary line = none)
    (hgame : answer.game = before)
    (hnext : answer.next = if quits line then .over else .ask)
    (hmistake : ∀ told, mistake? before.boundary line = some told →
      answer.output = textOf [told] ++ prompt) : Turn host player line before s answer s
  /-- A deed fails. The player is told and stays in the section, with the whole session as it was
  unless the deed was a choice. -/
  | failed {deed : Deed} {fault : Fault} {failed : Session σ} {answer : Answer σ} {s' : τ}
    (hdeed : deed? before.boundary line = some deed)
    (hperform : deed.perform host player before.session s = ((.error fault, failed), s'))
    (hgame : answer.game = { before with session := failed }) (hnext : answer.next = .ask)
    (houtput : answer.output = textOf ["error: " ++ fault.line] ++ prompt)
    (hcurrent : failed.current = before.session.current)
    (hkept : (∀ optionId, deed ≠ .choose optionId) → failed = before.session) :
    Turn host player line before s answer s'
  /-- The session has been saved. -/
  | saved {answer : Answer σ} {s' : τ} (hdeed : deed? before.boundary line = some .save)
    (hperform : Deed.save.perform host player before.session s = ((.ok (), before.session), s'))
    (hgame : answer.game = before) (hnext : answer.next = .ask) :
    Turn host player line before s answer s'
  /-- Another deed has succeeded, and its session is shown. An event moves nobody, and neither does
  a choice that leads nowhere. -/
  | shown {deed : Deed} {acted : Session σ} {answer : Answer σ} {s' : τ}
    (hdeed : deed? before.boundary line = some deed)
    (hperform : deed.perform host player before.session s = ((.ok (), acted), s'))
    (hshows : answer.game.boundary.Shows host.engine acted answer.game.session)
    (hnext : answer.next = .ask)
    (hoften : ∃ told, answer.output = textOf (told ++ answer.game.boundary.printed) ++ prompt)
    (htrigger : ∀ event args, deed = .trigger event args →
      acted.current = before.session.current)
    (hblocked : ∀ optionId followed fault, deed = .choose optionId →
      (before.session.choose host.engine optionId).1 = .ok followed →
      followed.navigation = .blocked fault →
      acted.current = before.session.current ∧
        answer.game.boundary.blocked = some fault.message) :
    Turn host player line before s answer s'

/-- An answer with all that was shown before it. -/
def Answer.following (answer before : Answer σ) : Answer σ :=
  { answer with output := before.output ++ answer.output }

@[simp] theorem Answer.next_following (answer before : Answer σ) :
    (answer.following before).next = answer.next := rfl

@[simp] theorem Answer.game_following (answer before : Answer σ) :
    (answer.following before).game = answer.game := rfl

/-- A game goes on from an answer, turn by turn, until its lines end or the player leaves with one
of them; the lines after that one are not answered. -/
inductive Goes (host : Host (StateM τ) σ) (player : Player) :
    List String → Answer σ → τ → Answer σ → τ → Prop where
  | ended {before : Answer σ} {s : τ} (hask : before.next = .ask) :
    Goes host player [] before s before s
  | left {line : String} {rest : List String} {before answer : Answer σ} {s s' : τ}
    (hask : before.next = .ask) (hquits : quits line = true) (hover : answer.next = .over)
    (hturn : Turn host player line before.game s answer s') :
    Goes host player (line :: rest) before s (answer.following before) s'
  | went {line : String} {rest : List String} {before answer last : Answer σ} {s s' s'' : τ}
    (hask : before.next = .ask) (hquits : quits line = false)
    (hturn : Turn host player line before.game s answer s')
    (hrest : Goes host player rest (answer.following before) s' last s'') :
    Goes host player (line :: rest) before s last s''

end LineMode

/-! ## What deeds do to a session -/

section Deeds

variable {σ τ : Type} {E : Engine σ} {host : Host (StateM τ) σ} {player : Player}
  {session : Session σ} {s s' : τ}

/-- A choice that fails, or leads nowhere, moves nobody. -/
theorem Session.choose_stays (hat : session.AtCursor) {optionId : String}
    (h : ∀ followed, (session.choose E optionId).1 = .ok followed →
      ∃ fault, followed.navigation = .blocked fault) :
    (session.choose E optionId).2.current = session.current := by
  obtain ⟨s, hs⟩ := Story.hasSection_iff.mp hat.known
  obtain ⟨fault, heq⟩ | ⟨choice, hc, ho⟩ := choose_refused_or_offered E hs optionId
  · rw [heq]
  · obtain ⟨outcome, stage, hx⟩ :
        ∃ outcome stage, choice.execute E (session.stageOffered E) = (outcome, stage) :=
      ⟨_, _, rfl⟩
    rw [choose_offered hs hc ho hx] at h ⊢
    cases htarget : outcome.target with
    | restart =>
      rw [htarget, follow_restart] at h
      rw [follow_restart]
      cases hload : (session.executed optionId stage).source.later.load E with
      | error fault => rfl
      | ok story =>
        rw [hload] at h
        obtain ⟨fault, hfault⟩ := h _ rfl
        cases hfault
    | goTo id =>
      cases hsection : (session.executed optionId stage).story.section? id with
      | none =>
        rw [follow_unknown hsection]
        rfl
      | some section' =>
        rw [htarget, follow_known hsection] at h
        obtain ⟨fault, hfault⟩ := h _ rfl
        cases hfault

/-- A session that was loaded goes on from a save. -/
theorem Player.load_opened {loaded : Session σ} (h : player.load host s = (.ok loaded, s')) :
    loaded.Opened host.engine := by
  obtain ⟨state, t, -, h⟩ := Attempt.ok_of_bind h
  split at h
  · exact .resumed (StoryFile.resumeSession_ok_iff.mp (congrArg Prod.fst h))
  · cases h

namespace LineMode

theorem perform_load (host : Host (StateM τ) σ) (player : Player) (session : Session σ) (s : τ) :
    Deed.load.perform host player session s = match player.load host s with
      | (.ok loaded, s') => ((.ok (), loaded), s')
      | (.error fault, s') => ((.error fault, session), s') := by
  simp only [Deed.perform, bind, StateT.bind, ExceptT.run]
  rcases player.load host s with ⟨fault | loaded, s'⟩ <;> rfl

theorem perform_save (host : Host (StateM τ) σ) (player : Player) (session : Session σ) (s : τ) :
    Deed.save.perform host player session s =
      (((player.save host session s).1, session), (player.save host session s).2) := rfl

/-- Whatever comes of a deed, its session is at its cursor. -/
theorem perform_atCursor (hat : session.AtCursor) {deed : Deed} {result : Except Fault Unit}
    {acted : Session σ} (h : deed.perform host player session s = ((result, acted), s')) :
    acted.AtCursor := by
  have hclosed := Session.AtCursor.closed host.engine
  cases deed with
  | choose optionId =>
    cases h
    exact hclosed.step hat (.choose optionId)
  | trigger event args =>
    cases h
    exact hclosed.step hat (.trigger event args)
  | restart =>
    have hstep := hclosed.step hat .restart
    have hacted : session.restart host.engine = (result, acted) := congrArg Prod.fst h
    rw [Session.step, hacted] at hstep
    exact hstep
  | load =>
    rw [perform_load] at h
    rcases hload : player.load host s with ⟨fault | loaded, t⟩
    · rw [hload] at h
      cases h
      exact hat
    · rw [hload] at h
      cases h
      exact (Player.load_opened hload).atCursor
  | save =>
    rw [perform_save] at h
    cases h
    exact hat

/-- A deed that fails moves nobody, and changes nothing in the session unless it was a choice. -/
theorem perform_fails (hat : session.AtCursor) {deed : Deed} {fault : Fault} {failed : Session σ}
    (h : deed.perform host player session s = ((.error fault, failed), s')) :
    failed.current = session.current ∧
      ((∀ optionId, deed ≠ .choose optionId) → failed = session) := by
  cases deed with
  | choose optionId =>
    obtain ⟨⟨hresult, rfl⟩, -⟩ := (Prod.mk.inj h).imp_left Prod.mk.inj
    refine ⟨Session.choose_stays hat fun followed hok => ?_, fun hne => absurd rfl (hne optionId)⟩
    rw [hok] at hresult
    cases hresult
  | trigger event args => cases h
  | restart =>
    have hrestart : session.restart host.engine = (.error fault, failed) := congrArg Prod.fst h
    have hsame : failed = session := by
      rw [Session.restart] at hrestart
      split at hrestart
      · cases hrestart
      · cases hrestart
        rfl
    exact ⟨congrArg Session.current hsame, fun _ => hsame⟩
  | load =>
    rw [perform_load] at h
    rcases hload : player.load host s with ⟨fault' | loaded, t⟩
    · rw [hload] at h
      cases h
      exact ⟨rfl, fun _ => rfl⟩
    · rw [hload] at h
      cases h
  | save =>
    rw [perform_save] at h
    obtain ⟨⟨-, rfl⟩, -⟩ := (Prod.mk.inj h).imp_left Prod.mk.inj
    exact ⟨rfl, fun _ => rfl⟩

/-! ## Every line is a turn -/

variable {before : LineGame σ} {line : String} {acted : Session σ}

/-- A deed that is no choice has succeeded, and its session is shown. -/
theorem turn_showing (hat : before.session.AtCursor) {deed : Deed}
    (hdeed : deed? before.boundary line = some deed) (hne : ∀ optionId, deed ≠ .choose optionId)
    (hperform : deed.perform host player before.session s = ((.ok (), acted), s'))
    (told : List String) :
    Turn host player line before s
        (showing told before.boundary (Boundary.ofSession host.engine acted)) s' ∧
      (showing told before.boundary
        (Boundary.ofSession host.engine acted)).game.session.AtCursor := by
  obtain ⟨boundary, final, hshown, hshows, hfinal, -⟩ :=
    (perform_atCursor hat hperform).ofSession host.engine
  rw [hshown]
  refine ⟨.shown hdeed hperform hshows rfl ⟨told, rfl⟩ ?_ ?_, hfinal⟩
  · rintro event args rfl
    cases hperform
    rfl
  · exact fun optionId _ _ hchoose => absurd hchoose (hne optionId)

/-- A deed has failed, and the player is told. -/
theorem turn_telling (hat : before.session.AtCursor) {deed : Deed}
    (hdeed : deed? before.boundary line = some deed) {fault : Fault} {failed : Session σ}
    (hperform : deed.perform host player before.session s = ((.error fault, failed), s')) :
    Turn host player line before s
        (telling ("error: " ++ fault.line) { before with session := failed }) s' ∧
      failed.AtCursor := by
  obtain ⟨hcurrent, hkept⟩ := perform_fails hat hperform
  exact ⟨.failed hdeed hperform rfl rfl rfl hcurrent hkept, perform_atCursor hat hperform⟩

/-- A choice has succeeded, and the player is shown what it has led to. -/
theorem turn_followed (hat : before.session.AtCursor) {optionId : String}
    (hdeed : deed? before.boundary line = some (.choose optionId)) {followed : Followed}
    {chosen : Session σ}
    (hchoose : before.session.choose host.engine optionId = (.ok followed, chosen)) :
    Turn host player line before s
        (showing [] before.boundary (Boundary.afterChoice host.engine followed chosen)) s ∧
      (showing [] before.boundary
        (Boundary.afterChoice host.engine followed chosen)).game.session.AtCursor := by
  have hperform : (Deed.choose optionId).perform host player before.session s =
      ((.ok (), chosen), s) := by
    rw [Deed.perform, hchoose]
    rfl
  obtain ⟨boundary, final, hshown, hshows, hfinal, -, -, hblocked⟩ :=
    (perform_atCursor hat hperform).afterChoice host.engine followed
  rw [hshown]
  refine ⟨.shown hdeed hperform hshows rfl ⟨[], rfl⟩ (fun _ _ h => by cases h) ?_, hfinal⟩
  rintro _ followed' fault ⟨⟩ hok hnowhere
  rw [hchoose] at hok
  obtain rfl := Except.ok.inj hok
  have hstays : (before.session.choose host.engine optionId).2.current =
      before.session.current := by
    refine Session.choose_stays hat fun followed' h => ?_
    rw [hchoose] at h
    obtain rfl := Except.ok.inj h
    exact ⟨fault, hnowhere⟩
  rw [hchoose] at hstays
  exact ⟨hstays, hblocked fault hnowhere⟩

/-- A line that picks an option is answered by a turn. -/
theorem answerPick_turn (hat : before.session.AtCursor)
    (hline : LineCommand.ofLine? (Text.trim line) = none) (hblank : Text.trim line ≠ "") :
    Turn host player line before s (answerPick host.engine (Text.trim line) before) s ∧
      (answerPick host.engine (Text.trim line) before).game.session.AtCursor := by
  have hdeed : deed? before.boundary line =
      (before.boundary.pick? (Text.trim line)).map .choose := by
    rw [deed?, hline]
    exact if_neg hblank
  unfold answerPick
  cases hpick : before.boundary.pick? (Text.trim line) with
  | none =>
    rw [hpick] at hdeed
    refine ⟨.idle hdeed rfl ?_ fun told htold => ?_, hat⟩
    · rw [quits, hline]
      rfl
    · simp only [mistake?, hline, hblank, hpick, Option.isSome_none, Bool.false_eq_true, or_self,
        if_false, Option.some.injEq] at htold
      rw [← htold]
      rfl
  | some optionId =>
    rw [hpick] at hdeed
    dsimp only
    rcases hchoose : before.session.choose host.engine optionId with ⟨fault | followed, chosen⟩
    · have hperform : (Deed.choose optionId).perform host player before.session s =
          ((.error fault, chosen), s) := by
        rw [Deed.perform, hchoose]
        rfl
      exact turn_telling hat hdeed hperform
    · exact turn_followed hat hdeed hchoose

/-- The answer to a command is made from what comes of the command. -/
theorem answer_command {command : LineCommand} (hblank : Text.trim line ≠ "")
    (hline : LineCommand.ofLine? (Text.trim line) = some command) :
    answer host player line before s =
      let obeyed := obey host player command before.session s
      (match obeyed.1 with
        | (.error fault, session) =>
          telling ("error: " ++ fault.line) { before with session }
        | (.ok (.tell line), session) => telling line { before with session }
        | (.ok (.leave line), session) =>
          { output := textOf [line], game := { before with session }, next := .over }
        | (.ok (.refresh line), session) =>
          showing [line] before.boundary (Boundary.ofSession host.engine session), obeyed.2) := by
  rw [answer]
  simp only [hblank, if_false, hline, bind, StateT.bind]
  rcases obey host player command before.session s with ⟨⟨fault | reaction, session⟩, s'⟩
  · rfl
  · cases reaction <;> rfl

theorem obey_save (player : Player) (session : Session σ) (s : τ) :
    obey host player .save session s = match player.save host session s with
      | (.ok (), s') => ((.ok (.tell ("saved: " ++ player.stateFile)), session), s')
      | (.error fault, s') => ((.error fault, session), s') := by
  have hkeeping (operation : Attempt (StateM τ) Reaction) : keeping session operation s =
      (((operation s).1, session), (operation s).2) := rfl
  rw [obey, hkeeping]
  rcases hsave : player.save host session s with ⟨fault | ⟨⟩, s'⟩
  · rw [Attempt.bind_error hsave]
  · rw [Attempt.bind_ok hsave]
    rfl

theorem obey_load (player : Player) (session : Session σ) (s : τ) :
    obey host player .load session s = match player.load host s with
      | (.ok loaded, s') => ((.ok (.refresh ("loaded: " ++ player.stateFile)), loaded), s')
      | (.error fault, s') => ((.error fault, session), s') := by
  simp only [obey, bind, StateT.bind, ExceptT.run]
  rcases player.load host s with ⟨fault | loaded, s'⟩ <;> rfl

/-- A command that does nothing is answered by a turn. -/
theorem turn_idle {command : LineCommand}
    (hline : LineCommand.ofLine? (Text.trim line) = some command)
    (hnone : commanded? command = none) {answered : Answer σ} (hgame : answered.game = before)
    (hnext : answered.next = if leaves command then .over else .ask)
    (htold : ∀ told, mistaken? command = some told →
      answered.output = textOf [told] ++ prompt) :
    Turn host player line before s answered s := by
  refine .idle ?_ hgame ?_ ?_
  · rw [deed?, hline]
    exact hnone
  · rw [quits, hline]
    exact hnext
  · rw [mistake?, hline]
    exact htold

/-- A line that names a command is answered by a turn. -/
theorem command_turn (hat : before.session.AtCursor) {command : LineCommand}
    (hblank : Text.trim line ≠ "")
    (hline : LineCommand.ofLine? (Text.trim line) = some command) :
    ∃ answered s', answer host player line before s = (answered, s') ∧
      Turn host player line before s answered s' ∧ answered.game.session.AtCursor := by
  have hdeed : deed? before.boundary line = commanded? command := by rw [deed?, hline]
  rw [answer_command hblank hline]
  refine ⟨_, _, rfl, ?_⟩
  cases command with
  | help | state | quit => exact ⟨turn_idle hline rfl rfl rfl (fun _ h => by cases h), hat⟩
  | unknown word =>
    refine ⟨turn_idle hline rfl rfl rfl ?_, hat⟩
    rintro told ⟨⟩
    rfl
  | save =>
    rw [obey_save]
    have hsaved := perform_save host player before.session s
    rcases hsave : player.save host before.session s with ⟨fault | ⟨⟩, s'⟩
    · rw [hsave] at hsaved
      exact turn_telling hat hdeed hsaved
    · rw [hsave] at hsaved
      exact ⟨.saved hdeed hsaved rfl rfl, hat⟩
  | load =>
    rw [obey_load]
    have hloaded := perform_load host player before.session s
    rcases hload : player.load host s with ⟨fault | loaded, s'⟩
    · rw [hload] at hloaded
      exact turn_telling hat hdeed hloaded
    · rw [hload] at hloaded
      exact turn_showing hat hdeed (fun _ h => by cases h) hloaded _
  | restart =>
    have hperform : Deed.restart.perform host player before.session s =
      (before.session.restart host.engine, s) := rfl
    rw [obey]
    rcases hrestart : before.session.restart host.engine with ⟨fault | ⟨⟩, fresh⟩
    · rw [hrestart] at hperform
      exact turn_telling hat hdeed hperform
    · rw [hrestart] at hperform
      exact turn_showing hat hdeed (fun _ h => by cases h) hperform _
  | trigger event args =>
    cases event with
    | none =>
      refine ⟨turn_idle hline rfl rfl rfl ?_, hat⟩
      rintro told ⟨⟩
      rfl
    | some event =>
      exact turn_showing hat hdeed (fun _ h => by cases h) rfl _

/-- Every line is answered by a turn, after which the session can be shown again. -/
theorem answer_turn (host : Host (StateM τ) σ) (player : Player)
    (hat : before.session.AtCursor) (line : String) (s : τ) :
    ∃ answered s', answer host player line before s = (answered, s') ∧
      Turn host player line before s answered s' ∧ answered.game.session.AtCursor := by
  by_cases hblank : Text.trim line = ""
  · have hline : LineCommand.ofLine? (Text.trim line) = none := by rw [hblank]; decide
    have hanswer : answer host player line before s =
        ({ output := prompt, game := before, next := .ask }, s) := by
      rw [answer]
      simp only [hblank, if_true]
      rfl
    refine ⟨_, _, hanswer, .idle ?_ rfl ?_ ?_, hat⟩
    · rw [deed?, hline]
      simp only [hblank, if_true]
    · rw [quits, hline]
      rfl
    · intro told htold
      simp only [mistake?, hblank, true_or, if_true] at htold
      cases htold
  · cases hline : LineCommand.ofLine? (Text.trim line) with
    | some command => exact command_turn hat hblank hline
    | none =>
      have hanswer : answer host player line before s =
          (answerPick host.engine (Text.trim line) before, s) := by
        rw [answer]
        simp only [hblank, if_false, hline]
        rfl
      exact ⟨_, s, hanswer, answerPick_turn hat hline hblank⟩

/-! ## Games -/

theorem not_quits_of_deed {boundary : Boundary} {deed : Deed}
    (h : deed? boundary line = some deed) : quits line = false := by
  rw [deed?] at h
  rw [quits]
  cases hline : LineCommand.ofLine? (Text.trim line) with
  | none => rfl
  | some command =>
    rw [hline] at h
    cases command with
    | quit => cases h
    | help | save | load | restart | state | trigger | unknown => rfl

/-- Only a line with which the player leaves ends the game. -/
theorem Turn.next {answered : Answer σ} (h : Turn host player line before s answered s') :
    answered.next = if quits line then .over else .ask := by
  cases h with
  | idle hdeed hgame hnext hmistake => exact hnext
  | failed hdeed hperform hgame hnext houtput hcurrent hkept =>
    rw [hnext, not_quits_of_deed hdeed]
    rfl
  | saved hdeed hperform hgame hnext =>
    rw [hnext, not_quits_of_deed hdeed]
    rfl
  | shown hdeed hperform hshows hnext hoften htrigger hblocked =>
    rw [hnext, not_quits_of_deed hdeed]
    rfl

theorem answers_over {last : Answer σ} (h : last.next = .over) (lines : List String) (s : τ) :
    answers host player lines last s = (last, s) := by
  cases lines with
  | nil => rfl
  | cons line rest =>
    rw [answers, h]
    rfl

theorem answers_ask {first : Answer σ} (h : first.next = .ask) (rest : List String)
    {answered : Answer σ} (hline : answer host player line first.game s = (answered, s')) :
    answers host player (line :: rest) first s =
      answers host player rest (answered.following first) s' := by
  rw [answers, h]
  simp only [bind, StateT.bind, hline]
  rfl

/-- The lines of a game are answered turn by turn. -/
theorem answers_goes (host : Host (StateM τ) σ) (player : Player) {first : Answer σ}
    (hat : first.game.session.AtCursor) (hask : first.next = .ask) (lines : List String) (s : τ) :
    ∃ last s', answers host player lines first s = (last, s') ∧
      Goes host player lines first s last s' := by
  induction lines generalizing first s with
  | nil => exact ⟨first, s, rfl, .ended hask⟩
  | cons line rest ih =>
    obtain ⟨answered, s', hline, hturn, hat'⟩ := answer_turn host player hat line s
    have hnext := hturn.next
    rw [answers_ask hask rest hline]
    cases hquits : quits line with
    | true =>
      rw [hquits, if_pos rfl] at hnext
      have hover := (Answer.next_following answered first).trans hnext
      exact ⟨_, s', answers_over hover rest s', .left hask hquits hnext hturn⟩
    | false =>
      rw [hquits, if_neg Bool.false_ne_true] at hnext
      rw [← Answer.next_following answered first] at hnext
      rw [← Answer.game_following answered first] at hat'
      obtain ⟨last, s'', hrest, hgoes⟩ := ih hat' hnext s'
      exact ⟨last, s'', hrest, .went hask hquits hturn hgoes⟩

/-- A game that goes on so has ended well. -/
theorem Goes.endOf {lines : List String} {first last : Answer σ}
    (h : Goes host player lines first s last s') :
    CommandLine.endOf last = { output := last.output, code := 0 } := by
  induction h with
  | ended hask => rw [CommandLine.endOf, hask]
  | left hask hquits hover hturn => rw [CommandLine.endOf, Answer.next_following, hover]
  | went hask hquits hturn hrest ih => exact ih

/-- No game in line mode fails. Whatever its lines are, and whatever the files hold, it begins with
the section of its session and goes on turn by turn until the lines end or the player leaves. -/
theorem play_goes (hopened : session.Opened host.engine) (player : Player) (input : String)
    (s : τ) :
    ∃ last s', play host player input session s = (last, s') ∧
      (begin host.engine session).game.boundary.Shows host.engine session
        (begin host.engine session).game.session ∧
      Goes host player (Text.lines input) (begin host.engine session) s last s' ∧
      CommandLine.endOf last = { output := last.output, code := 0 } := by
  obtain ⟨boundary, final, hshown, hshows, hfinal, -⟩ := hopened.atCursor.ofSession host.engine
  have hbegin : (begin host.engine session).game = ⟨final, boundary⟩ ∧
      (begin host.engine session).next = .ask := by
    rw [begin, hshown]
    exact ⟨rfl, rfl⟩
  have hat : (begin host.engine session).game.session.AtCursor := by
    rw [hbegin.1]
    exact hfinal
  obtain ⟨last, s', hplay, hgoes⟩ := answers_goes host player hat hbegin.2 (Text.lines input) s
  refine ⟨last, s', hplay, ?_, hgoes, hgoes.endOf⟩
  rw [hbegin.1]
  exact hshows

/-- A game in the hall goes on through a choice that leads nowhere, a state file that is read and
written, and what is no option, and nothing is read behind the line with which the player leaves. -/
theorem play_goes_hall :
    ∃ session last after,
      Session.create Script.engine ⟨Agent.hallOfDoors, .seeded 7⟩ none = .ok session ∧
      play (Disk.host (pure 0)) ⟨.ofText "/story.yaml" Agent.hallOfDoors, "/state.json", some 7⟩
          "door\n:load\ncellar\n:save\n:quit\n1\n" session Agent.halfway = (last, after) ∧
      Goes (Disk.host (pure 0)) ⟨.ofText "/story.yaml" Agent.hallOfDoors, "/state.json", some 7⟩
          ["door", ":load", "cellar", ":save", ":quit", "1"] (begin Script.engine session)
          Agent.halfway last after ∧
      (CommandLine.endOf last).code = 0 := by
  have hlines : Text.lines "door\n:load\ncellar\n:save\n:quit\n1\n" =
      ["door", ":load", "cellar", ":save", ":quit", "1"] := by decide
  obtain ⟨session, hcreate⟩ := ok_of_isOk
    (x := Session.create Script.engine ⟨Agent.hallOfDoors, .seeded 7⟩ none) (by decide +kernel)
  have hopened : session.Opened (Disk.host (pure 0)).engine := .created hcreate
  obtain ⟨last, after, hplay, -, hgoes, hend⟩ := play_goes hopened
    ⟨.ofText "/story.yaml" Agent.hallOfDoors, "/state.json", some 7⟩
    "door\n:load\ncellar\n:save\n:quit\n1\n" Agent.halfway
  rw [hlines] at hgoes
  exact ⟨session, last, after, hcreate, hplay, hgoes, congrArg Ending.code hend⟩

end LineMode

end Deeds

end Gamebook
