import Gamebook.Boundary
import Gamebook.PlayerState
import Gamebook.Shelf

/-!
# Players

A player with a story file: beginning a session, saving it to a file, and going on from there. A
failure to load a story names the story's file.
-/

namespace Gamebook

namespace StoryFile

variable {m : Type → Type} [Monad m] {σ : Type}

/-- A failure to load the story names its file; others stay as they are. -/
def blame (story : StoryFile) (fault : Fault) : Fault :=
  if fault.kind = .parse then .inFile story.name story.path fault else fault

/-- A session at the start of a story, or at another of its sections. -/
def newSession (host : Host m σ) (story : StoryFile) (start : Option String)
    (seed : Option UInt32) : Attempt m (Session σ) := do
  let source ← ExceptT.lift (host.source story.text seed)
  Attempt.ofExcept ((Session.create host.engine source start).mapError story.blame)

/-- A session that goes on from a player state. -/
def resumeSession (host : Host m σ) (story : StoryFile) (state : PlayerState) :
    Attempt m (Session σ) := do
  let source ← ExceptT.lift (host.source story.text state.seed)
  Attempt.ofExcept ((Session.resume host.engine source state.save).mapError story.blame)

end StoryFile

/-- A player of a story: the story, where its state is kept, and the seed it was begun with. -/
structure Player where
  story : StoryFile
  stateFile : String
  seed : Option UInt32

namespace Player

variable {m : Type → Type} [Monad m] {σ : Type}

/-- The state to keep of a session. -/
def stateOf (E : Engine σ) (storyRef : String) (seed : Option UInt32) (session : Session σ) :
    PlayerState :=
  { schema := PlayerState.currentSchema, storyRef, seed, save := session.save E }

/-- Saves a session. -/
def save (host : Host m σ) (player : Player) (session : Session σ) : Attempt m Unit :=
  (stateOf host.engine player.story.ref player.seed session).write host.files player.stateFile

/-- The session of the state file, which must belong to the story. -/
def load (host : Host m σ) (player : Player) : Attempt m (Session σ) := do
  let state ← PlayerState.read host.files player.stateFile
  if state.storyRef = player.story.ref then player.story.resumeSession host state
  else throw (.stateOfOtherStory player.story.ref state.storyRef)

end Player

end Gamebook
