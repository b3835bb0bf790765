import Syllabus.Json.Basic

/-! Records in JSON: an object with named members, or a list of the members' values in order. In an
object other members do not matter; a list holds no other values. -/
namespace Syllabus.Json

structure MemberRule where
  name : String
  required : Bool
  deriving DecidableEq, Repr

def valuesOf (name : String) (members : List (String × Json)) : List Json :=
  (members.filter fun member => member.1 == name).map Prod.snd

def MemberRule.pick? (rule : MemberRule) : List Json → Option (Option Json)
  | [] => if rule.required then none else some none
  | [value] => some (some value)
  | _ => none

def inOrder? : List MemberRule → List Json → Option (List (Option Json))
  | [], [] => some []
  | [], _ :: _ => none
  | rule :: rules, [] => if rule.required then none else (inOrder? rules []).map (none :: ·)
  | _ :: rules, value :: values => (inOrder? rules values).map (some value :: ·)

def record? (j : Json) (rules : List MemberRule) : Option (List (Option Json)) :=
  match j with
  | .object members => rules.mapM fun rule => rule.pick? (valuesOf rule.name members)
  | .list items => inOrder? rules items
  | _ => none

def text? : Json → Option String
  | .text s => some s
  | _ => none

def bool? : Json → Option Bool
  | .bool b => some b
  | _ => none

def list? (decode : Json → Option α) : Json → Option (List α)
  | .list items => items.mapM decode
  | _ => none

def absent? (decode : Json → Option α) : Option Json → Option (Option α)
  | none => some none
  | some .null => some none
  | some value => (decode value).map some

def name? (names : List (String × α)) (j : Json) : Option α :=
  let found (name : String) : Option α := (names.find? fun entry => entry.1 == name).map Prod.snd
  match j with
  | .text name => found name
  | .object [(name, .null)] => found name
  | _ => none

end Syllabus.Json
