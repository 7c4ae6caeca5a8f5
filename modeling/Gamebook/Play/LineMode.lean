import Gamebook.Play.Typed
import Gamebook.Player

/-!
# Line mode

Playing line by line: a prompt, a line from the player, what comes of it. A line is a command, the
number of an option, or the id of one. What goes wrong with a line is reported, and the game goes
on.

* `LineMode.begin` : the title, the summary of the commands, the first boundary.
* `LineMode.answer` : one line.
* `LineMode.play` : all lines of an input.
-/

namespace Gamebook

/-- A game in line mode: the session and what was shown last. -/
structure LineGame (σ : Type) where
  session : Session σ
  boundary : Boundary

namespace LineMode

variable {m : Type → Type} [Monad m] {σ : Type}

/-- Lines as text. -/
def textOf (lines : List String) : String := String.join (lines.map (· ++ "\n"))

/-- What the player is asked with. -/
def prompt : String := "> "

/-- What comes of a command. -/
inductive Reaction where
  /-- A line to show. -/
  | tell (line : String)
  /-- A line to show, and the section again. -/
  | refresh (line : String)
  /-- A last line to show. -/
  | leave (line : String)

/-- An operation that leaves the session as it is. -/
def keeping {α : Type} (session : Session σ) (operation : Attempt m α) :
    m (Except Fault α × Session σ) :=
  (fun result => (result, session)) <$> operation.run

/-- Carries out a command. -/
def obey (host : Host m σ) (player : Player) (command : LineCommand) (session : Session σ) :
    m (Except Fault Reaction × Session σ) :=
  match command with
  | .help => pure (.ok (.tell LineCommand.summary), session)
  | .save =>
    keeping session do
      player.save host session
      pure (.tell ("saved: " ++ player.stateFile))
  | .load => do
    match ← (player.load host).run with
    | .ok loaded => pure (.ok (.refresh ("loaded: " ++ player.stateFile)), loaded)
    | .error fault => pure (.error fault, session)
  | .restart =>
    match session.restart host.engine with
    | (.ok (), session) => pure (.ok (.refresh "restarted"), session)
    | (.error fault, session) => pure (.error fault, session)
  | .state =>
    pure (.ok (.tell (Json.ofVariables (session.save host.engine).globals).compact), session)
  | .trigger none _ => pure (.ok (.tell "usage: :trigger <event> [args...]"), session)
  | .trigger (some event) args =>
    let result := session.trigger host.engine event args
    pure (.ok (.refresh result.1), result.2)
  | .quit => pure (.ok (.leave "bye"), session)
  | .unknown word => pure (.ok (.tell ("unknown command: " ++ word)), session)

/-- How the game goes on after a line. -/
inductive Next where
  /-- The player is asked for another line. -/
  | ask
  /-- The player has left. -/
  | over
  /-- The game cannot be shown any more. -/
  | failed (fault : Fault)

/-- What comes of a line: text for the player, the game after it, and how it goes on. -/
structure Answer (σ : Type) where
  output : String
  game : LineGame σ
  next : Next

/-- The answer that shows a boundary, after some lines, and asks for another line. -/
def showing (lines : List String) (fallback : Boundary)
    (shown : Except Fault Boundary × Session σ) : Answer σ :=
  match shown with
  | (.ok boundary, session) =>
    { output := textOf (lines ++ boundary.printed) ++ prompt
      game := { session, boundary }
      next := .ask }
  | (.error fault, session) =>
    { output := textOf lines, game := { session, boundary := fallback }, next := .failed fault }

/-- The answer that shows a line and asks for another one. -/
def telling (line : String) (game : LineGame σ) : Answer σ :=
  { output := textOf [line] ++ prompt, game, next := .ask }

/-- The answer to a line that picks an option. -/
def answerPick (E : Engine σ) (line : String) (game : LineGame σ) : Answer σ :=
  match game.boundary.pick? line with
  | none => telling ("no such option: " ++ line) game
  | some optionId =>
    match game.session.choose E optionId with
    | (.error fault, session) => telling ("error: " ++ fault.line) { game with session }
    | (.ok followed, session) =>
      showing [] game.boundary (Boundary.afterChoice E followed session)

/-- The answer to a line. -/
def answer (host : Host m σ) (player : Player) (line : String) (game : LineGame σ) :
    m (Answer σ) := do
  let line := Text.trim line
  if line = "" then pure { output := prompt, game, next := .ask }
  else
    match LineCommand.ofLine? line with
    | none => pure (answerPick host.engine line game)
    | some command =>
      match ← obey host player command game.session with
      | (.error fault, session) => pure (telling ("error: " ++ fault.line) { game with session })
      | (.ok (.tell line), session) => pure (telling line { game with session })
      | (.ok (.leave line), session) =>
        pure { output := textOf [line], game := { game with session }, next := .over }
      | (.ok (.refresh line), session) =>
        pure (showing [line] game.boundary (Boundary.ofSession host.engine session))

/-- What is shown before the first line is read. -/
def begin (E : Engine σ) (session : Session σ) : Answer σ :=
  let credits := match session.story.author with
    | some author => ["by " ++ author]
    | none => []
  showing (session.story.title :: credits ++ [LineCommand.summary]) {}
    (Boundary.ofSession E session)

/-- Answers the lines of an input one after the other, until it ends or the player leaves. -/
def answers (host : Host m σ) (player : Player) : List String → Answer σ → m (Answer σ)
  | [], before => pure before
  | line :: rest, before =>
    match before.next with
    | .ask => do
      let after ← answer host player line before.game
      answers host player rest { after with output := before.output ++ after.output }
    | _ => pure before

/-- Plays the lines of an input. -/
def play (host : Host m σ) (player : Player) (input : String) (session : Session σ) :
    m (Answer σ) :=
  answers host player (Text.lines input) (begin host.engine session)

end LineMode

end Gamebook
