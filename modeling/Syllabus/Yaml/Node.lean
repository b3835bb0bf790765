import Syllabus.Yaml.Value

/-! A YAML document as it is written, and the value it has. Aliases stand for the values of anchors.
What an anchor means is only known at the end of the document, so a value may be repeated before it is
written; one that repeats itself has no end and no value. The number of repetitions and the depth of
nesting are limited. -/
namespace Syllabus.Yaml

inductive Node where
  | scalar (tag : Option Tag) (text : String) (plain : Bool)
  | alias (anchor : Nat)
  | list (tag : Option Tag) (items : List Node)
  | mapping (tag : Option Tag) (entries : List (Node × Node))
  deriving Repr, Inhabited

structure Document where
  root : Node
  anchors : List (Nat × Node)
  marks : Nat
  deriving Repr

abbrev Repeating := StateT Nat Option

namespace Document

def meant (d : Document) : Node → Repeating Node
  | .alias anchor => do
    match ← get with
    | 0 => failure
    | left + 1 =>
      set left
      match d.anchors.find? fun entry => entry.1 == anchor with
      | some (_, node) => return node
      | none => failure
  | node => return node

def underTag (tag : Option Tag) (value : Yaml) : Yaml :=
  match tag with
  | some (.named name) => .tagged name value
  | _ => value

def distinct : List Yaml → Bool
  | [] => true
  | key :: more => !(more.any (same key)) && distinct more

def valueOf (d : Document) : (depth : Nat) → Node → Repeating Yaml
  | 0, node => do
    match ← d.meant node with
    | .scalar tag s plain => (ofScalar? tag s plain : Option Yaml)
    | _ => failure
  | depth + 1, node => do
    match ← d.meant node with
    | .scalar tag s plain => (ofScalar? tag s plain : Option Yaml)
    | .list tag items => return underTag tag (.list (← items.mapM (valueOf d depth)))
    | .mapping tag entries =>
      let entries ← entries.mapM fun (key, value) => do
        return (← valueOf d depth key, ← valueOf d depth value)
      if distinct (entries.map Prod.fst) then return underTag tag (.mapping entries) else failure
    | .alias _ => failure

def depthLimit : Nat := 128

def repetitionsPerMark : Nat := 100

def value? (d : Document) : Option Yaml :=
  ((d.valueOf depthLimit d.root).run (repetitionsPerMark * d.marks)).map Prod.fst

end Document
end Syllabus.Yaml
