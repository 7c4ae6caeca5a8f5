import Gamebook.Script.Library.Reply
import Gamebook.Script.Operators

/-!
# Functions on records
-/

namespace Gamebook

namespace Script

namespace Library

/-- The fields, with those of another record for the names that are missing. -/
def filled (fields more : Fields Item) : Fields Item :=
  more.foldl
    (fun acc entry => if Fields.has entry.1 acc then acc else Fields.insert entry.1 entry.2 acc)
    fields

/-- Functions whose first argument is a record. -/
def records (name : String) (args : List Item) : Answer :=
  match args with
  | [.record fields] =>
    match name with
    | "len" => gives (size fields.length)
    | "is_empty" => gives (.bool fields.isEmpty)
    | "keys" => gives (.array (fields.map (fun f => .text f.1)))
    | "values" => gives (.array (fields.map Prod.snd))
    | "clear" => changes (.record [])
    | _ => none
  | [.record fields, .text key] =>
    match name with
    | "contains" => gives (.bool (Fields.has key fields))
    | "get" => gives ((Fields.find? key fields).getD .unit)
    | "remove" =>
      match Fields.find? key fields with
      | some item => changes (.record (Fields.erase key fields)) item
      | none => gives .unit
    | _ => none
  | [.record fields, .record more] =>
    match name with
    | "mixin" => changes (.record (Operators.merged fields more))
    | "fill_with" => changes (.record (filled fields more))
    | _ => none
  | [.record fields, .text key, item] =>
    if name == "set" then changes (.record (Fields.insert key item fields)) else none
  | _ => none

end Library

end Script

end Gamebook
