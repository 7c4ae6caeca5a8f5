import Gamebook.Engine
import Gamebook.Template
import Gamebook.Text.Name

/-!
# The stage

A script engine together with the section that plays on it. The section's private variables live in
a record of their own, its namespace; while the section plays, scripts reach them through the
alias `s`, and after every script the alias is copied back.

* `Stage.bindSection` : points the alias at a section, with its visit count.
* `Stage.commit` : copies the alias back.
* `Stage.run`, `Stage.check`, `Stage.render` : scripts that fail are contained.
* `Stage.runEffect` : what choosing an option runs, and where it redirects to.
-/

namespace Gamebook

/-- An engine's state and the section that is bound to it. -/
structure Stage (σ : Type) where
  engine : σ
  bound : Option String := none

namespace Stage

variable {σ : Type}

/-! ## Reserved names -/

/-- A record that every visit empties. -/
def scratchName : String := "temp"

/-- The alias of the private variables of the bound section. -/
def aliasName : String := "s"

/-- What an effect assigns to send the player elsewhere. -/
def redirectName : String := "goto_section"

/-- The private variable that tells how often the section was entered. -/
def visitsName : String := "visits"

/-- The procedure that runs after every option. -/
def afterOptionName : String := hookFunction "post_option"

/-! ## Variables -/

/-- Writes a variable. -/
def write (E : Engine σ) (name : String) (value : Value) (st : Stage σ) :
    Except Fault Unit × Stage σ :=
  let result := E.write name value st.engine
  (result.1, { st with engine := result.2 })

/-- Writes a variable if the engine lets it. -/
def put (E : Engine σ) (name : String) (value : Value) (st : Stage σ) : Stage σ :=
  (write E name value st).2

/-- The value of a variable; nothing if it cannot be read. -/
def valueOf (E : Engine σ) (name : String) (st : Stage σ) : Value :=
  match E.read name st.engine with
  | .ok value => value
  | .error _ => .nil

/-- Declares the reserved variables, so that scripts may assign them. -/
def prime (E : Engine σ) (st : Stage σ) : Except Fault Unit × Stage σ :=
  match write E scratchName (.record []) st with
  | (.error fault, st) => (.error fault, st)
  | (.ok (), st) =>
    match write E redirectName .nil st with
    | (.error fault, st) => (.error fault, st)
    | (.ok (), st) => write E aliasName (.record []) st

/-- Empties the scratch record. -/
def resetScratch (E : Engine σ) (st : Stage σ) : Stage σ := put E scratchName (.record []) st

/-! ## Namespaces -/

/-- Gives a section its private variables. -/
def openNamespace (E : Engine σ) (sectionId : String) (vars : Variables) (st : Stage σ) :
    Except Fault Unit × Stage σ :=
  write E (sectionNamespace sectionId) (.record (Fields.sorted vars)) st

/-- The private variables of a section; none if they are no record. -/
def privates (E : Engine σ) (sectionId : String) (st : Stage σ) : Variables :=
  match valueOf E (sectionNamespace sectionId) st with
  | .record fields => fields
  | _ => []

/-- Points the alias at a section and notes the visit count among its variables. -/
def bindSection (E : Engine σ) (sectionId : String) (visits : UInt32) (st : Stage σ) : Stage σ :=
  let fields := (privates E sectionId st).insert visitsName (.int (Int64.ofNat visits.toNat))
  let st := put E (sectionNamespace sectionId) (.record fields) st
  let st := put E aliasName (.record fields) st
  { st with bound := some sectionId }

/-- Copies the alias back into the namespace of the bound section, if it still is a record. -/
def commit (E : Engine σ) (st : Stage σ) : Stage σ :=
  match st.bound with
  | none => st
  | some sectionId =>
    match valueOf E aliasName st with
    | .record fields => put E (sectionNamespace sectionId) (.record fields) st
    | _ => st

/-! ## Scripts -/

/-- Runs statements; tells whether they succeeded. -/
def run (E : Engine σ) (code : String) (st : Stage σ) : Bool × Stage σ :=
  let result := E.execute code st.engine
  (result.1.isOk, commit E { st with engine := result.2 })

/-- Evaluates a guard; one that fails is false. -/
def check (E : Engine σ) (expression : String) (st : Stage σ) : Bool × Stage σ :=
  let result := E.evaluate expression st.engine
  let holds := match result.1 with
    | .ok value => value.isTruthy
    | .error _ => false
  (holds, { st with engine := result.2 })

/-- Evaluates a placeholder; one that is blank or fails leaves no text. -/
def evalText (E : Engine σ) (expression : String) : StateM (Stage σ) String := fun st =>
  if Text.isBlank expression then ("", st)
  else
    let result := E.evaluate expression st.engine
    let text := match result.1 with
      | .ok value => value.toText
      | .error _ => ""
    (text, { st with engine := result.2 })

/-- A template with its placeholders evaluated. -/
def render (E : Engine σ) (template : String) : StateM (Stage σ) String :=
  Template.expand template (evalText E)

/-- Calls a procedure or function. -/
def call (E : Engine σ) (name : String) (args : List Value) (st : Stage σ) :
    Except Fault Value × Stage σ :=
  let result := E.call name args st.engine
  (result.1, commit E { st with engine := result.2 })

/-- Calls a hook if it is defined; tells whether it is. -/
def callHook (E : Engine σ) (name : String) (st : Stage σ) : Bool × Stage σ :=
  if E.hasFunction name st.engine then (true, (call E name [] st).2) else (false, st)

/-! ## Effects -/

/-- Where a value of the redirect variable leads. -/
def redirectOf : Value → Option String
  | .nil => none
  | .bool false => none
  | value => if value.toText = "" then none else some value.toText

/-- Reads and clears the redirect variable. -/
def takeRedirect (E : Engine σ) (st : Stage σ) : Option String × Stage σ :=
  let value := valueOf E redirectName st
  (redirectOf value, if value.isNil then st else put E redirectName .nil st)

/-- Runs the effect of an option, if it has one, and the procedure that runs after every option;
tells whether the effect succeeded and where it redirects to. -/
def runEffect (E : Engine σ) (code : Option String) (st : Stage σ) :
    (Bool × Option String) × Stage σ :=
  let ran := match code with
    | some code => run E code st
    | none => (true, st)
  let hooked := callHook E afterOptionName ran.2
  let taken := takeRedirect E hooked.2
  ((ran.1, taken.1), taken.2)

end Stage

end Gamebook
