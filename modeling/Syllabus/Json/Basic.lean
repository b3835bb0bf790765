import Syllabus.Number.Shortest

/-! JSON values. A number is a whole number of sixty-four bits or a binary fraction; the other shapes
a well-formed document can hold, a number beyond every binary fraction and text with half a
character, are kept apart, because a reader may skip them but not use them. -/
namespace Syllabus

namespace Json

inductive Number where
  | integer (value : Int)
  | real (value : Binary64)
  | beyond
  deriving DecidableEq, Repr

end Json

inductive Json where
  | null
  | bool (value : Bool)
  | number (value : Json.Number)
  | text (value : String)
  | broken
  | list (items : List Json)
  | object (members : List (String × Json))
  deriving Repr, Inhabited

namespace Json

def natural (n : Nat) : Json := .number (.integer n)

def real (x : Binary64) : Json := .number (.real x)

def optional (encode : α → Json) : Option α → Json
  | some a => encode a
  | none => .null

def get? (name : String) : Json → Option Json
  | .object members => (members.find? fun member => member.1 == name).map Prod.snd
  | _ => none

mutual
def holdable (depth : Nat) : Json → Bool
  | .number .beyond => false
  | .broken => false
  | .list items => 0 < depth && holdableItems (depth - 1) items
  | .object members => 0 < depth && holdableMembers (depth - 1) members
  | _ => true

def holdableItems (depth : Nat) : List Json → Bool
  | [] => true
  | item :: more => holdable depth item && holdableItems depth more

def holdableMembers (depth : Nat) : List (String × Json) → Bool
  | [] => true
  | (_, value) :: more => holdable depth value && holdableMembers depth more
end

end Json
end Syllabus
