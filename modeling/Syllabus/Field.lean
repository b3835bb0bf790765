import Syllabus.Text.Basic

/-! Fields of a document's body: lines `key:: value`, each with the lines below it up to the next
field. Lines before the first field are stray. -/
namespace Syllabus

structure Field where
  key : String
  value : String
  line : Nat
  deriving DecidableEq, Repr

namespace Field

def isLetter (c : Char) : Bool := ('a' ≤ c && c ≤ 'z') || ('A' ≤ c && c ≤ 'Z')

def isKeyChar (c : Char) : Bool := isLetter c || ('0' ≤ c && c ≤ '9') || c = '_' || c = '-'

def ofChars? (line : List Char) : Option (List Char × List Char) :=
  let key := line.takeWhile isKeyChar
  match key.head?, line.drop key.length with
  | some c, ':' :: ':' :: rest => if isLetter c && !rest.contains '\n' then some (key, rest) else none
  | _, _ => none

def isFieldLine (line : String) : Bool := (ofChars? (Chars.trimEnd line.toList)).isSome

/-- The trimmed inline part and the trimmed lines below, on lines of their own; an empty part is
left out. -/
def valueOf (inline below : String) : String :=
  if below.isEmpty then inline else if inline.isEmpty then below else inline ++ "\n" ++ below

end Field

structure FieldBlock where
  fields : List Field
  stray : List (Nat × String)
  deriving DecidableEq, Repr

namespace FieldBlock

def gather : List (String × Nat) → List (String × Nat) × List Field
  | [] => ([], [])
  | (line, number) :: more =>
    let (below, fields) := gather more
    match Field.ofChars? line.toList with
    | some (key, inline) =>
      let below := Text.trim (Text.joinWith "\n" (below.map Prod.fst))
      ([], ⟨.ofList key, Field.valueOf (.ofList (Chars.trim inline)) below, number⟩ :: fields)
    | none => ((line, number) :: below, fields)

def parse (text : String) (first : Nat) : FieldBlock :=
  let (before, fields) := gather (((Text.lines text).map Text.trimEnd).zipIdx first)
  ⟨fields, (before.filter fun entry => !Text.blank entry.1).map fun (line, number) => (number, line)⟩

def get? (block : FieldBlock) (key : String) : Option Field := block.fields.find? fun f => f.key == key

def value? (block : FieldBlock) (key : String) : Option String := (block.get? key).map Field.value

end FieldBlock

def readBool? (s : String) : Option Bool :=
  let word := Text.lower (Text.trim s)
  if word == "true" then some true else if word == "false" then some false else none

end Syllabus
