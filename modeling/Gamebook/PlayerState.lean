import Gamebook.Host
import Gamebook.Save.Text
import Gamebook.Files.Path

/-!
# Player states

A player state is a save with the story it belongs to and the seed of the dice. It is kept in a
file, as an indented JSON record.
-/

namespace Gamebook

open Json (Node Decoded Shape)

/-- A save with the story it belongs to. -/
structure PlayerState where
  /-- The format of the file. -/
  schema : String
  storyRef : String
  seed : Option UInt32 := none
  save : Save

namespace PlayerState

variable {m : Type → Type} [Monad m]

/-- The format that is written, and the only one that is read. -/
def currentSchema : String := "codex-player.v1"

/-- The record that is written. -/
def toJson (state : PlayerState) : Json :=
  .object <| Json.present
    [("schemaVersion", some (.text state.schema)),
      ("storyRef", some (.text state.storyRef)),
      ("seed", state.seed.map (fun seed => .int seed.toNat)),
      ("save", some state.save.toJson)]

/-- The fields of a player state. -/
def shape : Shape where
  title := "PlayerState"
  fields := ["schemaVersion", "storyRef", "seed", "save"]
  optional := ["seed"]

/-- Sets one field. -/
def set (state : PlayerState) (field : String) (node : Node) : Decoded PlayerState :=
  match field with
  | "schemaVersion" => node.asText.map (fun v => { state with schema := v })
  | "storyRef" => node.asText.map (fun v => { state with storyRef := v })
  | "seed" => node.asWord?.map (fun v => { state with seed := v })
  | _ => (Save.ofNode node).map (fun v => { state with save := v })

/-- The player state that a node holds. -/
def ofNode (node : Node) : Decoded PlayerState :=
  shape.decode { schema := "", storyRef := "", save := Save.blank } set node

/-- The player state that a text holds. -/
def ofText (text : String) : Decoded PlayerState := Json.decode text ofNode

/-- Writes a player state to a file, making its folder if need be. -/
def write (files : Files m) (path : String) (state : PlayerState) : Attempt m Unit := do
  Attempt.orFault .stateUnwritable (files.makeFolders (Path.folder path))
  Attempt.orFault .stateUnwritable (files.write path state.toJson.indented)

/-- The player state that a text holds, if it has the current format. -/
def accept (text : String) : Except Fault PlayerState :=
  match ofText text with
  | .error complaint => .error (.stateInvalid complaint.message)
  | .ok state =>
    if state.schema = currentSchema then .ok state else .error (.stateFormat state.schema)

/-- Reads a player state from a file. -/
def read (files : Files m) (path : String) : Attempt m PlayerState := do
  if ← (files.isThere path : Attempt m Bool) then
    let text ← Attempt.orFault .stateUnreadable (files.read path)
    Attempt.ofExcept (accept text)
  else throw (.stateFileMissing path)

end PlayerState

end Gamebook
