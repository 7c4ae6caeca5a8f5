import Gamebook.Json.Decoder
import Gamebook.Save

/-!
# Saves as JSON text

A save is written as a record; what is empty or absent is left out, and read back as empty or
absent.
-/

namespace Gamebook

open Json (Node Decoded Shape)

/-- A list of members without those that are absent. -/
def Json.present (members : List (String × Option Json)) : List (String × Json) :=
  members.filterMap (fun (name, value) => value.map (fun value => (name, value)))

/-- Variables as an object. -/
def Json.ofVariables (vars : Variables) : Json := .object (Json.ofFields vars)

namespace Progress

/-- The record that is written for the progress in a section. -/
def toJson (progress : Progress) : Json :=
  .object <| Json.present
    [("visits", some (.int progress.visits.toNat)),
      ("hiddenOptions",
        if progress.hiddenOptions.isEmpty then none
        else some (.array (progress.hiddenOptions.map .text))),
      ("vars", if progress.vars.isEmpty then none else some (Json.ofVariables progress.vars))]

/-- The fields of the progress in a section. -/
def shape : Shape where
  title := "SectionState"
  fields := ["visits", "hiddenOptions", "vars"]
  optional := ["hiddenOptions", "vars"]

/-- Sets one field. -/
def set (progress : Progress) (field : String) (node : Node) : Decoded Progress :=
  match field with
  | "visits" => node.asWord.map (fun v => { progress with visits := v })
  | "hiddenOptions" =>
    (node.asList Node.asText).map (fun v => { progress with hiddenOptions := v })
  | _ => node.asVariables.map (fun v => { progress with vars := v })

/-- The progress that a node holds. -/
def ofNode (node : Node) : Decoded Progress := shape.decode { visits := 0 } set node

end Progress

namespace Save

/-- The record that is written for a save. -/
def toJson (save : Save) : Json :=
  .object <| Json.present
    [("schemaVersion", some (.text save.schema)),
      ("storyTitle", some (.text save.storyTitle)),
      ("sectionId", some (.text save.sectionId)),
      ("globals", some (Json.ofVariables save.globals)),
      ("sections",
        if save.sections.isEmpty then none
        else some (.object (save.sections.map (fun (id, progress) => (id, progress.toJson))))),
      ("rngState", save.dice.map (fun dice => .int dice.toNat))]

/-- The fields of a save. -/
def shape : Shape where
  title := "SaveState"
  fields := ["schemaVersion", "storyTitle", "sectionId", "globals", "sections", "rngState"]
  optional := ["sections", "rngState"]

/-- A save in which no field is set. -/
def blank : Save := { schema := "", storyTitle := "", sectionId := "", globals := [] }

/-- Sets one field. -/
def set (save : Save) (field : String) (node : Node) : Decoded Save :=
  match field with
  | "schemaVersion" => node.asText.map (fun v => { save with schema := v })
  | "storyTitle" => node.asText.map (fun v => { save with storyTitle := v })
  | "sectionId" => node.asText.map (fun v => { save with sectionId := v })
  | "globals" => node.asVariables.map (fun v => { save with globals := v })
  | "sections" => (node.asMap Progress.ofNode).map (fun v => { save with sections := v })
  | _ => node.asWord?.map (fun v => { save with dice := v })

/-- The save that a node holds. -/
def ofNode (node : Node) : Decoded Save := shape.decode blank set node

/-- The save that a text holds. -/
def ofText (text : String) : Decoded Save := Json.decode text ofNode

end Save

end Gamebook
