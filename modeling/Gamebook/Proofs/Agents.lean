import Gamebook.Proofs.Commands
import Gamebook.Proofs.Session.Continuing
import Mathlib.Data.List.Chain

/-!
# Steps of programs continue one session

A program plays with one command for each step; between the commands there is nothing but a state
file. What the commands write is what one session in memory shows that takes the same steps, as long
as all that its scripts have left behind before a step is in the save or is read by no script.

* `Agent.commands`, `Agent.play` : the commands, and the same game on one session.
* `Agent.Passes` : nothing is lost between two steps that the second asks for.
* `Agent.commands_continue` : the commands continue one session.
-/

namespace Gamebook

open Script

/-! ## Games -/

/-- A step after the first: an option that is chosen, or an event with its arguments as typed. -/
inductive Move where
  | choose (optionId : String)
  | trigger (eventId : String) (args : List String)

namespace Move

/-- The command for a step. -/
def command (stateIn stateOut : String) : Move → Command
  | choose optionId => .choose stateIn optionId stateOut
  | trigger eventId args => .trigger stateIn eventId args stateOut

/-- The step on a session. -/
def step {σ : Type} (E : Engine σ) : Move → Agent.Step σ
  | choose optionId => Agent.choosing E optionId
  | trigger eventId args => Agent.triggering E eventId (args.map Value.ofTyped)

@[simp] theorem stateIn?_command (stateIn stateOut : String) (move : Move) :
    (move.command stateIn stateOut).stateIn? = some stateIn := by
  cases move <;> rfl

@[simp] theorem stateOut?_command (stateIn stateOut : String) (move : Move) :
    (move.command stateIn stateOut).stateOut? = some stateOut := by
  cases move <;> rfl

theorem step_command {σ : Type} (E : Engine σ) (stateIn stateOut : String) (move : Move) :
    (move.command stateIn stateOut).step E = move.step E := by
  cases move <;> rfl

end Move

namespace Agent

/-- The commands that go on from a state file, for steps with the state file of each. -/
def commandsFrom (stateIn : String) : List (Move × String) → List Command
  | [] => []
  | (move, stateOut) :: rest => move.command stateIn stateOut :: commandsFrom stateOut rest

/-- The commands of a game: one that begins it, and one for each step. -/
def commands (place : StoryPlace) (start : Option String) (seed : UInt32) (stateOut : String)
    (moves : List (Move × String)) : List Command :=
  .start place start (some seed) stateOut :: commandsFrom stateOut moves

section Memory

variable {σ : Type} (E : Engine σ)

/-- What a session shows after each step, with the session after it. A step that fails ends it. -/
def playFrom : List Move → Session σ → Except Fault (List (Boundary × Session σ))
  | [], _ => .ok []
  | move :: rest, session =>
    match move.step E session with
    | (.error fault, _) => .error fault
    | (.ok boundary, session) => (playFrom rest session).map ((boundary, session) :: ·)

/-- What one session shows when it was created, and after each step. -/
def play (source : Source σ) (start : Option String) (moves : List Move) :
    Except Fault (List (Boundary × Session σ)) :=
  match Session.create E source start with
  | .error fault => .error fault
  | .ok session =>
    match Boundary.ofSession E session with
    | (.error fault, _) => .error fault
    | (.ok boundary, session) => (playFrom E moves session).map ((boundary, session) :: ·)

end Memory

/-- What a command writes that shows a boundary. -/
def endingOf (stateOut : String) (boundary : Boundary) : Ending where
  output := LineMode.textOf (boundary.report stateOut)
  code := 0

end Agent

/-- The step has led into a section: it was no event, and the player has moved. -/
def Boundary.hasEntered (boundary : Boundary) : Bool :=
  boundary.message.isNone && boundary.blocked.isNone

/-- What the session before a step has left behind is in the save, or is not asked for. The scratch
record, which is not, must be empty, or must not be asked for until the step enters a section. -/
def Agent.Passes (names : Names) (fresh : Interpreter)
    (before after : Boundary × Session Interpreter) : Prop :=
  before.2.Kept names fresh ∧
    (before.2.story.stage.engine.Holds Stage.scratchName (.record []) ∨
      names.has Stage.scratchName = false ∧ after.1.hasEntered = true)

/-! ## State files -/

/-- The state of a session is read as it was written if its save is. -/
theorem Player.accept_stateOf {session : Session Interpreter}
    (hlasts : (session.save Script.engine).Lasts) (storyRef : String) (seed : Option UInt32) :
    PlayerState.accept (stateOf Script.engine storyRef seed session).toJson.indented =
      .ok (stateOf Script.engine storyRef seed session) :=
  PlayerState.accept_lasts rfl hlasts

namespace Agent

variable {disk after : Disk} {path text stateIn stateOut : String} {seed : UInt32}
  {clock : StateM Disk Clock} {session resumed : Session Interpreter} {boundary : Boundary}

/-- The text of the state file of a session. -/
def stateText (path text : String) (seed : UInt32) (session : Session Interpreter) : String :=
  (Player.stateOf Script.engine (StoryFile.ofText path text).ref (some seed)
    session).toJson.indented

/-- What a state file and a story file hold between two commands. -/
structure Parked (path text : String) (seed : UInt32) (disk : Disk) (stateFile : String)
    (session : Session Interpreter) : Prop where
  state : disk.read stateFile = .ok (stateText path text seed session)
  story : disk.read path = .ok text

/-- A first step opens a new session of the story it finds. -/
theorem opens_new {place : StoryPlace} {start : Option String}
    (hplace : (place.find Disk.files disk).1 = .ok (.ofText path text))
    (hcreate : Session.create Script.engine ⟨text, .seeded seed⟩ start = .ok session) :
    Opens (Disk.host clock) disk (.start place start (some seed) stateOut) (.ofText path text)
      (some seed) session :=
  .start hplace (StoryFile.newSession_ok_iff.mpr hcreate)

/-- A step opens what a session goes on with whose save lasts. -/
theorem opens_parked {command : Command} (habsolute : Path.isAbsolute path = true)
    (hin : command.stateIn? = some stateIn)
    (hparked : Parked path text seed disk stateIn session)
    (hlasts : (session.save Script.engine).Lasts)
    (hresume : Session.resume Script.engine ⟨text, .seeded seed⟩ (session.save Script.engine) =
      .ok resumed) :
    Opens (Disk.host clock) disk command (.ofText path text) (some seed) resumed := by
  have hread : (PlayerState.read (Disk.host clock).files stateIn disk).1 =
      .ok (Player.stateOf Script.engine (StoryFile.ofText path text).ref (some seed) session) :=
    congrArg Prod.fst (PlayerState.read_files hparked.state (Player.accept_stateOf hlasts _ _))
  have hfind : (Shelf.ofRef (Disk.host clock).files (StoryFile.ofText path text).ref disk).1 =
      .ok (.ofText path text) :=
    congrArg Prod.fst (Shelf.ofRef_files habsolute hparked.story)
  exact .goOn hin hread hfind (StoryFile.resumeSession_ok_iff.mpr hresume)

/-- The command for a step writes what the step shows on the session that goes on from the file. -/
theorem command_disk (habsolute : Path.isAbsolute path = true)
    (hparked : Parked path text seed disk stateIn session)
    (hlasts : (session.save Script.engine).Lasts)
    (hresume : Session.resume Script.engine ⟨text, .seeded seed⟩ (session.save Script.engine) =
      .ok resumed) {move : Move} (hstep : (move.step Script.engine resumed).1 = .ok boundary)
    (hkeep : disk.keep stateOut
      (stateText path text seed (move.step Script.engine resumed).2) = .ok after) :
    CommandLine.openCommand (Disk.host clock) (move.command stateIn stateOut) disk =
      (.ended (endingOf stateOut boundary), after) := by
  have hopens : Opens (Disk.host clock) disk (move.command stateIn stateOut) (.ofText path text)
      (some seed) resumed :=
    opens_parked habsolute (move.stateIn?_command ..) hparked hlasts hresume
  have hshown : (move.command stateIn stateOut).step Script.engine resumed =
      (.ok boundary, (move.step Script.engine resumed).2) := by
    rw [Move.step_command, ← hstep]
  exact openCommand_shows rfl (fun h => by cases h) (move.stateOut?_command ..) hopens hshown hkeep

variable {names : Names} {fresh : Interpreter}

/-- An event leads into no section. -/
theorem not_hasEntered_triggering {σ : Type} {E : Engine σ} {session : Session σ} {eventId : String}
    {args : List Value} (h : (triggering E eventId args session).1 = .ok boundary) :
    boundary.hasEntered = false := by
  unfold triggering at h
  dsimp only at h
  split at h
  · cases h
  · cases h
    rfl

variable {document : Document} {next : Session Interpreter} {move : Move}

/-- A step on the session that goes on from a save shows the same, and leaves a twin. -/
theorem step_resumed (hcovers : Covering names text seed document fresh)
    (hgoing : session.Going names text seed document fresh)
    (hstep : move.step Script.engine session = (.ok boundary, next)) {earlier : Boundary}
    (hpasses : Passes names fresh (earlier, session) (boundary, next)) :
    ∃ resumed next', Session.resume Script.engine ⟨text, .seeded seed⟩
        (session.save Script.engine) = .ok resumed ∧
      move.step Script.engine resumed = (.ok boundary, next') ∧
      next.Twins Script.engine names.withScratch.demands
        (Interpreter.Alike names.withScratch fresh) next' := by
  have hsettles := hcovers.settles
  obtain ⟨hkept, hempty | ⟨hunread, hentered⟩⟩ := hpasses
  · obtain ⟨resumed, hresume, htwins⟩ := hgoing.resume_twins hcovers hkept hempty
    have hsame : Same (Session.Twins Script.engine names.withScratch.demands
        (Interpreter.Alike names.withScratch fresh)) (move.step Script.engine session)
        (move.step Script.engine resumed) := by
      cases move with
      | choose optionId => exact same_choosing hsettles.after hsettles.full optionId htwins
      | trigger eventId args =>
        exact same_triggering hsettles.after hsettles.full eventId _ htwins
    rw [hstep] at hsame
    obtain ⟨next', hnext, htwins'⟩ := hsame.second
    exact ⟨resumed, next', hresume, hnext, htwins'⟩
  · cases move with
    | trigger eventId args =>
      rw [not_hasEntered_triggering (congrArg Prod.fst hstep)] at hentered
      cases hentered
    | choose optionId =>
      obtain ⟨resumed, hresume, hsettling⟩ := hgoing.resume_settling hcovers hkept hunread
      rw [Boundary.hasEntered, Bool.and_eq_true, Option.isNone_iff_eq_none,
        Option.isNone_iff_eq_none] at hentered
      have hsame := same_choosing_entering hsettles hsettling (congrArg Prod.fst hstep) hentered.2
      have hchoosing : choosing Script.engine optionId session = (.ok boundary, next) := hstep
      rw [hchoosing] at hsame
      obtain ⟨next', hnext, htwins⟩ := hsame.second
      exact ⟨resumed, next', hresume, hnext, htwins⟩

/-- So it writes what the step shows on the session in memory, if nothing is lost in between. -/
theorem move_disk (hcovers : Covering names text seed document fresh)
    (habsolute : Path.isAbsolute path = true)
    (hgoing : session.Going names text seed document fresh)
    (hparked : Parked path text seed disk stateIn session)
    (hstep : move.step Script.engine session = (.ok boundary, next)) {earlier : Boundary}
    (hpasses : Passes names fresh (earlier, session) (boundary, next))
    (hkeep : disk.keep stateOut (stateText path text seed next) = .ok after) :
    CommandLine.openCommand (Disk.host clock) (move.command stateIn stateOut) disk =
      (.ended (endingOf stateOut boundary), after) := by
  obtain ⟨resumed, next', hresume, hnext, htwins⟩ := step_resumed hcovers hgoing hstep hpasses
  have hstate : stateText path text seed (move.step Script.engine resumed).2 =
      stateText path text seed next := by
    rw [hnext, stateText, stateText, Player.stateOf, Player.stateOf,
      Session.save_twins hcovers.settles.after htwins]
  exact command_disk habsolute hparked hpasses.1.lasts hresume (congrArg Prod.fst hnext)
    ((congrArg (disk.keep stateOut) hstate).trans hkeep)

theorem going_step (hcovers : Covering names text seed document fresh)
    (hgoing : session.Going names text seed document fresh)
    (hstep : move.step Script.engine session = (.ok boundary, next)) :
    next.Going names text seed document fresh := by
  cases move with
  | choose optionId =>
    have hnext : (choosing Script.engine optionId session).2 = next := congrArg Prod.snd hstep
    exact hnext ▸ hgoing.choosing hcovers optionId
  | trigger eventId args =>
    have hnext : (triggering Script.engine eventId (args.map Value.ofTyped) session).2 = next :=
      congrArg Prod.snd hstep
    exact hnext ▸ hgoing.triggering hcovers eventId _

/-- The first command writes what is shown at the beginning. -/
theorem start_disk {place : StoryPlace} {start : Option String} {created : Session Interpreter}
    (hplace : place.find Disk.files disk = (.ok (.ofText path text), disk))
    (hcreate : Session.create Script.engine ⟨text, .seeded seed⟩ start = .ok created)
    (hshown : Boundary.ofSession Script.engine created = (.ok boundary, session))
    (hkeep : disk.keep stateOut (stateText path text seed session) = .ok after) :
    CommandLine.openCommand (Disk.host clock) (.start place start (some seed) stateOut) disk =
      (.ended (endingOf stateOut boundary), after) := by
  have hopens : Opens (Disk.host clock) disk (.start place start (some seed) stateOut)
      (.ofText path text) (some seed) created := opens_new (congrArg Prod.fst hplace) hcreate
  exact openCommand_shows rfl (fun h => by cases h) rfl hopens hshown hkeep

theorem ok_of_map {ε α β : Type} {f : α → β} {result : Except ε α} {b : β}
    (h : result.map f = .ok b) : ∃ a, result = .ok a ∧ f a = b := by
  cases result with
  | error reason => cases h
  | ok a => exact ⟨a, rfl, Except.ok.inj h⟩

/-- A game that succeeds has begun. -/
theorem play_eq_ok {σ : Type} {E : Engine σ} {source : Source σ} {start : Option String}
    {moves : List Move} {shown : List (Boundary × Session σ)}
    (h : play E source start moves = .ok shown) :
    ∃ created first later, shown = first :: later ∧ Session.create E source start = .ok created ∧
      Boundary.ofSession E created = (.ok first.1, first.2) ∧
      playFrom E moves first.2 = .ok later := by
  unfold play at h
  cases hcreate : Session.create E source start with
  | error fault =>
    rw [hcreate] at h
    cases h
  | ok created =>
    rw [hcreate] at h
    dsimp only at h
    rcases hshown : Boundary.ofSession E created with ⟨fault | boundary, session⟩
    · rw [hshown] at h
      cases h
    · rw [hshown] at h
      obtain ⟨later, hlater, rfl⟩ := ok_of_map h
      exact ⟨created, (boundary, session), later, rfl, rfl, hshown, hlater⟩

/-- One command after the other. -/
theorem mapM_cons_disk {α β : Type} {f : α → StateM Disk β} {a : α} {b : β} (as : List α)
    (h : f a disk = (b, after)) :
    ((a :: as).mapM f disk).1 = b :: (as.mapM f after).1 := by
  rw [List.mapM_cons]
  simp only [bind, StateT.bind, h]
  rfl

/-- The commands that go on from a state file write what one session shows. -/
theorem commandsFrom_disk (hcovers : Covering names text seed document fresh)
    (habsolute : Path.isAbsolute path = true) {moves : List (Move × String)}
    {shown : List (Boundary × Session Interpreter)} {earlier : Boundary}
    (hgoing : session.Going names text seed document fresh)
    (hparked : Parked path text seed disk stateIn session)
    (hplay : playFrom Script.engine (moves.map Prod.fst) session = .ok shown)
    (hpasses : List.IsChain (Passes names fresh) ((earlier, session) :: shown))
    (htakes : disk.Takes (.ofText path text) (moves.map Prod.snd)) :
    ((commandsFrom stateIn moves).mapM (CommandLine.openCommand (Disk.host clock)) disk).1 =
      List.zipWith (fun stateOut step => .ended (endingOf stateOut step.1))
        (moves.map Prod.snd) shown := by
  induction moves generalizing disk stateIn session shown earlier with
  | nil => rfl
  | cons entry rest ih =>
    obtain ⟨move, stateOut⟩ := entry
    rw [List.map_cons, playFrom] at hplay
    rcases hstep : move.step Script.engine session with ⟨fault | boundary, next⟩
    · rw [hstep] at hplay
      cases hplay
    · rw [hstep] at hplay
      obtain ⟨later, hlater, rfl⟩ := ok_of_map hplay
      obtain ⟨hpass, hrest⟩ := List.isChain_cons_cons.mp hpasses
      obtain ⟨after, hkeep, hstory, htakes'⟩ := htakes (stateText path text seed next)
      rw [commandsFrom, mapM_cons_disk _
        (move_disk hcovers habsolute hgoing hparked hstep hpass hkeep), List.map_cons,
        List.zipWith_cons_cons, ih (going_step hcovers hgoing hstep)
        ⟨Disk.read_keep hkeep, hstory⟩ hlater hrest htakes']

/-- The commands of a game print what one session shows that is created with the same seed and takes
the same steps, as long as nothing is lost between the steps that they ask for. -/
theorem commands_continue {place : StoryPlace} {story : StoryFile} {start : Option String}
    {moves : List (Move × String)} {shown : List (Boundary × Session Interpreter)}
    {loaded : Story Interpreter} (names : Names) (clock : StateM Disk Clock)
    (habsolute : Path.isAbsolute disk.current = true)
    (hplace : (place.find Disk.files disk).1 = .ok story)
    (htakes : disk.Takes story (stateOut :: moves.map Prod.snd))
    (hdocument : Document.ofText story.text = .ok document)
    (hload : Source.load Script.engine ⟨story.text, .seeded seed⟩ = .ok loaded)
    (hmoves : names.coversMoves document = true)
    (hall : names.withScratch.coversDocument document = true)
    (hplay : play Script.engine ⟨story.text, .seeded seed⟩ start (moves.map Prod.fst) = .ok shown)
    (hpasses : shown.IsChain (Passes names loaded.stage.engine)) :
    ((commands place start seed stateOut moves).mapM
        (CommandLine.openCommand (Disk.host clock)) disk).1 =
      List.zipWith (fun stateOut step => .ended (endingOf stateOut step.1))
        (stateOut :: moves.map Prod.snd) shown := by
  have hcovers := Covering.of_load hdocument hload hmoves hall
  have hfound : place.find Disk.files disk = (.ok story, (place.find Disk.files disk).2) :=
    Prod.ext hplace rfl
  obtain ⟨path, text, -, hpath, rfl, hsame⟩ := StoryPlace.find_ok habsolute hfound
  rw [hsame] at hfound
  obtain ⟨created, first, later, rfl, hcreate, hshown, hlater⟩ := play_eq_ok hplay
  have hnext : (Boundary.ofSession Script.engine created).2 = first.2 := congrArg Prod.snd hshown
  have hgoing := hnext ▸ Session.Going.ofSession hcovers (.created hcovers hcreate)
  obtain ⟨after, hkeep, hstory, htakes'⟩ := htakes (stateText path text seed first.2)
  rw [commands, mapM_cons_disk _ (start_disk hfound hcreate hshown hkeep),
    List.zipWith_cons_cons, commandsFrom_disk hcovers hpath hgoing
    ⟨Disk.read_keep hkeep, hstory⟩ hlater hpasses htakes']

/-! ## Examples -/

/-- A disk with nothing but a story. -/
def shelf (text : String) : Disk := ⟨.folder [("story.yaml", .file (some text))], "/"⟩

theorem isTop_story : Path.IsTop "/" "/story.yaml" "story.yaml" := by
  constructor <;> decide +kernel

theorem find_shelf (text : String) :
    (StoryPlace.file "/story.yaml").find Disk.files (shelf text) =
      (.ok (.ofText "/story.yaml" text), shelf text) :=
  Shelf.ofPath_files (by decide) (Disk.read_top isTop_story rfl)

/-- State files can be written beside the story. -/
theorem shelf_takes (text : String) {outs : List String}
    (houts : ∀ out ∈ outs, out ∈ ["/first.json", "/second.json", "/third.json"]) :
    (shelf text).Takes (.ofText "/story.yaml" text) outs := by
  refine Disk.takes_top isTop_story rfl ?_ fun out hout => ?_
  · intro key inside
    by_cases hkey : key = "story.yaml" <;> simp [Fields.find?, hkey]
  · have hthree := houts out hout
    simp only [List.mem_cons, List.not_mem_nil, or_false] at hthree
    obtain rfl | rfl | rfl := hthree
    · exact ⟨"first.json", by constructor <;> decide +kernel, by decide⟩
    · exact ⟨"second.json", by constructor <;> decide +kernel, by decide⟩
    · exact ⟨"third.json", by constructor <;> decide +kernel, by decide⟩

/-- A hall that counts steps in the scratch record and shows them, with a door to a yard. -/
def hallOfSteps : Source Interpreter :=
  ⟨"sections: \x7bhall: \x7brun: temp.steps = 2, text: \"\x7btemp.steps\x7d steps\", " ++
    "options: \x7bdoor: [Door, yard]\x7d\x7d, yard: \x7btext: Yard\x7d\x7d", .seeded 1⟩

/-- What is read in the hall and in the yard besides the scratch record. -/
def hallNames : List String :=
  [Stage.redirectName, Stage.aliasName, sectionNamespace "hall", sectionNamespace "yard"]

/-- A list of two, and no more, passes a check. -/
def ofTwo {α : Type} (check : α → α → Bool) : List α → Bool
  | [a, b] => check a b
  | _ => false

theorem eq_of_ofTwo {α : Type} {check : α → α → Bool} {items : List α}
    (h : ofTwo check items = true) : ∃ a b, items = [a, b] ∧ check a b = true := by
  unfold ofTwo at h
  split at h
  · next a b => exact ⟨a, b, rfl, h⟩
  · cases h

/-- Two commands go from the hall to the yard. -/
theorem commands_continue_hall :
    ∃ first second, play Script.engine hallOfSteps none [.choose "door"] = .ok [first, second] ∧
      first.1.text = "2 steps" ∧ second.1.text = "Yard" ∧
      ((commands (.file "/story.yaml") none 1 "/first.json" [(.choose "door", "/second.json")]).mapM
          (CommandLine.openCommand (Disk.host (pure 0))) (shelf hallOfSteps.text)).1 =
        [.ended (endingOf "/first.json" first.1), .ended (endingOf "/second.json" second.1)] := by
  have hany : ((hallOfSteps.opened? Script.engine).any fun opened =>
      (Names.only hallNames).coversMoves opened.1
        && (Names.only hallNames).withScratch.coversDocument opened.1
        && (play Script.engine hallOfSteps none [.choose "door"]).toOption.any (ofTwo
          fun first second => first.2.isKept hallNames opened.2.stage.engine
            && second.1.hasEntered && first.1.text == "2 steps" && second.1.text == "Yard")) =
          true := by decide +kernel
  obtain ⟨⟨document, loaded⟩, hopened, htest⟩ := (Option.any_eq_true ..).mp hany
  obtain ⟨hdocument, hload⟩ := Source.opened?_eq_some hopened
  simp only [Bool.and_eq_true] at htest
  obtain ⟨⟨hmoves, hall⟩, hplayed⟩ := htest
  obtain ⟨shown, hshown, htwo⟩ := (Option.any_eq_true ..).mp hplayed
  obtain ⟨first, second, rfl, hsteps⟩ := eq_of_ofTwo htwo
  simp only [Bool.and_eq_true, beq_iff_eq] at hsteps
  obtain ⟨⟨⟨hkept, hentered⟩, hfirst⟩, hsecond⟩ := hsteps
  have hplay : play Script.engine ⟨(StoryFile.ofText "/story.yaml" hallOfSteps.text).text,
      .seeded 1⟩ none ([(Move.choose "door", "/second.json")].map Prod.fst) =
        .ok [first, second] := toOption_eq_some hshown
  have hsource : Source.load Script.engine ⟨(StoryFile.ofText "/story.yaml"
      hallOfSteps.text).text, .seeded 1⟩ = .ok loaded := by
    rw [Source.load, StoryFile.ofText, hdocument]
    exact hload
  have htakes : (shelf hallOfSteps.text).Takes (.ofText "/story.yaml" hallOfSteps.text)
      ("/first.json" :: [(Move.choose "door", "/second.json")].map Prod.snd) :=
    shelf_takes _ (by simp)
  refine ⟨first, second, hplay, hfirst, hsecond, ?_⟩
  exact commands_continue (.only hallNames) (pure 0) (by decide)
    (congrArg Prod.fst (find_shelf hallOfSteps.text)) htakes hdocument hsource hmoves hall hplay
    (.cons_cons ⟨Session.kept_of_isKept hkept, .inr ⟨by decide, hentered⟩⟩ (.singleton _))

/-- An attic with a variable that only its script declares, and an event that changes nothing. -/
def attic : Source Interpreter :=
  ⟨"events: \x7blook: \x7brun: \"0\"\x7d\x7d\nsections: \x7battic: " ++
    "\x7brun: let x = 1;, text: \"\x7bx\x7d\"\x7d\x7d", .seeded 1⟩

/-- Without `Agent.Passes` the commands part from the session: both steps succeed either way, but
the second command does not know the variable that one session still shows. -/
theorem commands_part :
    ∃ first second boundary,
      play Script.engine attic none [.trigger "look" []] = .ok [first, second] ∧
      second.1.text = "1" ∧ boundary.text = "" ∧
      (endingOf "/second.json" boundary).output ≠ (endingOf "/second.json" second.1).output ∧
      ((commands (.file "/story.yaml") none 1 "/first.json"
          [(.trigger "look" [], "/second.json")]).mapM
          (CommandLine.openCommand (Disk.host (pure 0))) (shelf attic.text)).1 =
        [.ended (endingOf "/first.json" first.1), .ended (endingOf "/second.json" boundary)] := by
  have hany : (play Script.engine attic none [.trigger "look" []]).toOption.any (ofTwo
      fun first second => (first.2.save Script.engine).isPlain (Json.depthLimit - 5)
        && second.1.text == "1"
        && (Session.resume Script.engine attic (first.2.save Script.engine)).toOption.any
          fun resumed => ((Move.trigger "look" []).step Script.engine resumed).1.toOption.any
            fun boundary => boundary.text == "" &&
              (endingOf "/second.json" boundary).output !=
                (endingOf "/second.json" second.1).output) = true := by decide +kernel
  obtain ⟨shown, hshown, htwo⟩ := (Option.any_eq_true ..).mp hany
  obtain ⟨first, second, rfl, hsteps⟩ := eq_of_ofTwo htwo
  simp only [Bool.and_eq_true, beq_iff_eq] at hsteps
  obtain ⟨⟨hplain, hsecond⟩, hresumed⟩ := hsteps
  obtain ⟨resumed, hresume, htriggered⟩ := (Option.any_eq_true ..).mp hresumed
  obtain ⟨boundary, hboundary, hdiffers⟩ := (Option.any_eq_true ..).mp htriggered
  rw [Bool.and_eq_true, beq_iff_eq, bne_iff_ne] at hdiffers
  have hplay := toOption_eq_some hshown
  have hstep := toOption_eq_some hboundary
  refine ⟨first, second, boundary, hplay, hsecond, hdiffers.1, hdiffers.2, ?_⟩
  -- the first command begins the game, the second goes on from its state
  obtain ⟨created, _, _, hlist, hcreate, hbegun, -⟩ := play_eq_ok hplay
  obtain ⟨rfl, -⟩ := List.cons.inj hlist
  have hshelf : (shelf attic.text).Takes (.ofText "/story.yaml" attic.text)
      ["/first.json", "/second.json"] := shelf_takes _ (by simp)
  obtain ⟨after, hkeep, hstory, htakes⟩ := hshelf (stateText "/story.yaml" attic.text 1 first.2)
  obtain ⟨last, hlast, -⟩ := htakes (stateText "/story.yaml" attic.text 1
    ((Move.trigger "look" []).step Script.engine resumed).2)
  rw [commands, mapM_cons_disk _ (start_disk (find_shelf attic.text) hcreate hbegun hkeep),
    commandsFrom, mapM_cons_disk _ (command_disk (by decide) ⟨Disk.read_keep hkeep, hstory⟩
    (Save.lasts_of_isPlain hplain) (toOption_eq_some hresume) hstep hlast), commandsFrom,
    List.mapM_nil]
  rfl

end Agent

end Gamebook
