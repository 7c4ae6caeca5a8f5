import Gamebook.Document.Basic
import Gamebook.Stage

/-!
# Options of a section

An option of a section as it stands in play: its texts, where it leads, its gates and its guard,
what it does, and whether it is hidden. Executing one runs its effect and the hook after it,
decides the target, and renders its notice.
-/

namespace Gamebook

/-- Where an option leads. -/
inductive Target where
  /-- The gamebook starts over. -/
  | restart
  /-- The section with this id, if there is one. -/
  | goTo (sectionId : String)
  deriving Repr, DecidableEq

namespace Target

/-- The target that a text names. -/
def ofText (text : String) : Target := if text = "restart" then restart else goTo text

/-- The text that names a target. -/
def toText : Target → String
  | restart => "restart"
  | goTo sectionId => sectionId

/-- The target that an option of a section names: blanks around it do not count, and the section
itself is named by `self` or by nothing. -/
def resolve (goto : Option String) (owner : String) : Target :=
  let text := Text.trim (goto.getD "")
  ofText (if text = "" ∨ text = "self" then owner else text)

end Target

/-- An option in play. -/
structure Choice where
  id : String
  /-- The text template. -/
  text : String
  target : Target
  /-- The guard. -/
  condition : Option String := none
  effect : Option String := none
  /-- The template of the notice that executing it leaves. -/
  notice : Option String := none
  /-- The flags, sorted. -/
  flags : List String := []
  hidden : Bool := false

/-- An option as it is shown: its id and its rendered text. -/
structure Offer where
  id : String
  text : String
  deriving Repr, DecidableEq

/-- What executing an option leads to. -/
structure Outcome where
  target : Target
  notice : Option String
  /-- The effect has replaced the target. -/
  redirected : Bool

namespace Choice

variable {σ : Type}

/-- An option of a section as it is at the start. -/
def ofSpec (id : String) (owner : String) : OptionSpec → Choice
  | .pair text goto => { id, text, target := .resolve (some goto) owner }
  | .detailed detail =>
    { id
      text := detail.text
      target := .resolve detail.goto owner
      condition := detail.condition.bind Text.nonBlank
      effect := detail.run.bind Text.nonBlank
      notice := detail.notify.bind Text.nonBlank
      flags := Fields.names (Fields.sorted (detail.flags.map (fun flag => (flag, ()))))
      hidden := detail.hidden }

/-- The option can be executed once only. -/
def isOnce (choice : Choice) : Bool := choice.flags.contains "once"

/-- The gates that do not need the engine: the option is not hidden, and its flags fit the number of
visits of its section. -/
def gatesOpen (visits : UInt32) (choice : Choice) : Bool :=
  !choice.hidden
    && (!choice.flags.contains "first" || visits == 1)
    && (!choice.flags.contains "not_first" || visits != 1)

/-- The option can be chosen; evaluates its guard if its gates are open. -/
def isAvailable (E : Engine σ) (visits : UInt32) (choice : Choice) (st : Stage σ) :
    Bool × Stage σ :=
  if choice.gatesOpen visits then
    match choice.condition with
    | none => (true, st)
    | some condition => Stage.check E condition st
  else (false, st)

/-- The option as it is shown. -/
def offer (E : Engine σ) (choice : Choice) (st : Stage σ) : Offer × Stage σ :=
  let rendered := Stage.render E choice.text st
  (⟨choice.id, rendered.1⟩, rendered.2)

/-- The target after an effect, and whether the effect has replaced it; a restart stands. -/
def finalTarget (choice : Choice) : Option String → Target × Bool
  | some redirect =>
    if choice.target = .restart then (.restart, false) else (.ofText redirect, true)
  | none => (choice.target, false)

/-- The notice of an option; none if it renders to nothing. -/
def renderNotice (E : Engine σ) (choice : Choice) (st : Stage σ) : Option String × Stage σ :=
  match choice.notice with
  | none => (none, st)
  | some template =>
    let rendered := Stage.render E template st
    (if rendered.1 = "" then none else some rendered.1, rendered.2)

/-- Executes an option: its effect and the hook after it, then target and notice. -/
def execute (E : Engine σ) (choice : Choice) (st : Stage σ) : Outcome × Stage σ :=
  let effect := Stage.runEffect E choice.effect st
  let final := choice.finalTarget effect.1.2
  let notice := choice.renderNotice E effect.2
  ({ target := final.1, notice := notice.1, redirected := final.2 }, notice.2)

/-- The option after it was executed. -/
def spent (choice : Choice) : Choice :=
  if choice.isOnce then { choice with hidden := true } else choice

end Choice

end Gamebook
