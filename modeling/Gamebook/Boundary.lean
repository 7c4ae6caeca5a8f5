import Gamebook.Json.Basic
import Gamebook.Session

/-!
# What a player is shown

After every step a player is shown a boundary: the section with its options, and what the step has
left to say. It has three forms: lines that programs read, lines for a line printer, and the lines
of a text pane.
-/

namespace Gamebook

/-- A section with its options, and what the step before has left to say. -/
structure Boundary where
  sectionId : String := ""
  title : String := ""
  text : String := ""
  offers : List Offer := []
  /-- The notice of the option that was executed. -/
  notice : Option String := none
  /-- The result of the event that was triggered. -/
  message : Option String := none
  /-- Why the player has not moved. -/
  blocked : Option String := none

namespace Boundary

variable {σ : Type}

/-- What a section looks like, with nothing else to say. -/
def ofView (view : SectionView) : Boundary :=
  { sectionId := view.id, title := view.title, text := view.text, offers := view.offers }

/-- What a session shows. -/
def ofSession (E : Engine σ) (session : Session σ) : Except Fault Boundary × Session σ :=
  match session.view E with
  | (.ok view, session) => (.ok (ofView view), session)
  | (.error fault, session) => (.error fault, session)

/-- What a session shows after an option was followed. -/
def afterChoice (E : Engine σ) (followed : Followed) (session : Session σ) :
    Except Fault Boundary × Session σ :=
  match ofSession E session with
  | (.error fault, session) => (.error fault, session)
  | (.ok boundary, session) =>
    let blocked := match followed.navigation with
      | .blocked fault => some fault.message
      | _ => none
    (.ok { boundary with notice := followed.notice, blocked }, session)

/-- Nothing is left to choose. -/
def isEnd (boundary : Boundary) : Bool := boundary.offers.isEmpty

/-! ## For programs -/

/-- The line of a part that may be missing: its tag, and its text in quotes. -/
def optional (tag : String) (text : Option String) : List String :=
  match text with
  | some text => [tag ++ ":" ++ Json.quote text]
  | none => []

/-- The lines that programs read, with the path of the state that goes on from here. -/
def report (stateOut : String) (boundary : Boundary) : List String :=
  ["RESULT:OK", if boundary.isEnd then "EVENT:END" else "EVENT:OPTIONS"]
    ++ optional "MESSAGE_JSON" boundary.message
    ++ optional "NOTIFY_JSON" boundary.notice
    ++ optional "NAV_ERROR_JSON" boundary.blocked
    ++ ["SECTION:" ++ boundary.sectionId,
      "TITLE_JSON:" ++ Json.quote boundary.title,
      "TEXT_JSON:" ++ Json.quote boundary.text]
    ++ boundary.offers.map (fun offer => "OPTION:" ++ offer.id ++ "|" ++ Json.quote offer.text)
    ++ ["STATE_OUT:" ++ stateOut]

/-! ## For people -/

/-- What the step has left to say. -/
def remarks (boundary : Boundary) : List String :=
  boundary.message.toList
    ++ (boundary.notice.map ("* " ++ ·)).toList
    ++ (boundary.blocked.map ("! " ++ ·)).toList

/-- The heading of the section. -/
def heading (boundary : Boundary) : String := "== " ++ boundary.title ++ " =="

/-- Options numbered from a number on. -/
def numbered : Nat → List Offer → List String
  | _, [] => []
  | n, offer :: rest => ("  [" ++ toString n ++ "] " ++ offer.text) :: numbered (n + 1) rest

/-- The lines for a line printer, the options numbered from one. -/
def printed (boundary : Boundary) : List String :=
  [""] ++ boundary.remarks ++ [boundary.heading, Text.trimEnd boundary.text]
    ++ (if boundary.isEnd then ["[END]"] else [])
    ++ numbered 1 boundary.offers

/-- The lines of a text pane. -/
def lines (boundary : Boundary) : List String :=
  boundary.remarks ++ [boundary.heading] ++ Text.lines (Text.trimEnd boundary.text)

end Boundary

/-! ## Faults -/

/-- The lines that programs read for a fault. -/
def Fault.report (fault : Fault) : List String :=
  ["RESULT:ERROR", "ERROR_CODE:" ++ fault.code, "ERROR_MSG_JSON:" ++ Json.quote fault.message]

end Gamebook
