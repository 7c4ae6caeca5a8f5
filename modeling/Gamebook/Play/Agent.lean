import Gamebook.Play.Typed
import Gamebook.Player

/-!
# Steps for programs

A program plays one step at a time: each step reads a player state from a file, plays, writes the
new state to a file, and reports what a player would be shown. Nothing is written unless the step
succeeds.
-/

namespace Gamebook

namespace Agent

variable {m : Type → Type} [Monad m] {σ : Type}

/-- A step on a session: what is shown after it. -/
abbrev Step (σ : Type) := Session σ → Except Fault Boundary × Session σ

/-- Writes the state of a session to a file and reports what is shown. -/
def finish (host : Host m σ) (stateOut storyRef : String) (seed : Option UInt32)
    (shown : Except Fault Boundary × Session σ) : Attempt m (List String) := do
  let boundary ← Attempt.ofExcept shown.1
  (Player.stateOf host.engine storyRef seed shown.2).write host.files stateOut
  pure (boundary.report stateOut)

/-- Begins a story, at its start or at another section. -/
def start (host : Host m σ) (story : StoryFile) (sectionId : Option String) (seed : Option UInt32)
    (stateOut : String) : Attempt m (List String) := do
  let session ← story.newSession host sectionId seed
  finish host stateOut story.ref seed (Boundary.ofSession host.engine session)

/-- Goes on from a state file with a step. -/
def goOn (host : Host m σ) (stateIn stateOut : String) (step : Step σ) :
    Attempt m (List String) := do
  let state ← PlayerState.read host.files stateIn
  let story ← Shelf.ofRef host.files state.storyRef
  let session ← story.resumeSession host state
  finish host stateOut story.ref state.seed (step session)

/-- The step that chooses an option. -/
def choosing (E : Engine σ) (optionId : String) : Step σ := fun session =>
  match session.choose E optionId with
  | (.error fault, session) => (.error fault, session)
  | (.ok followed, session) => Boundary.afterChoice E followed session

/-- The step that triggers an event. -/
def triggering (E : Engine σ) (eventId : String) (args : List Value) : Step σ := fun session =>
  let result := session.trigger E eventId args
  match Boundary.ofSession E result.2 with
  | (.error fault, session) => (.error fault, session)
  | (.ok boundary, session) => (.ok { boundary with message := some result.1 }, session)

end Agent

end Gamebook
