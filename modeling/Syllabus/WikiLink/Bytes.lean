import Syllabus.Excerpt.Bytes
import Syllabus.WikiLink

/-! Links found by the bytes of a text, in one pass with every step checked. What is left of the text gets shorter with
each stretch in double brackets, and how many bytes are done is counted beside it; by that count one byte of the whole
text is looked at before each stretch. A slice that is none of what is left, a byte that the text does not have and a
step that leaves as much as there was have no answer, and without it nothing has. -/
namespace Syllabus.WikiLink
open ByteExcerpt (slice?)

structure ByteLink where
  start : Nat
  text : String
  deriving DecidableEq, Repr

structure Scan where
  consumed : Nat
  rest : String
  found : List ByteLink
  deriving DecidableEq, Repr

namespace Scan

def find? (needle s : String) : Option Nat := (Text.cut? needle s).map fun (before, _) => before.utf8ByteSize

def marked? (text : String) (at_ : Nat) : Option Bool :=
  if 0 < at_ then text.toUTF8.data[at_ - 1]?.map (· == 33) else some false

def step? (text : String) (s : Scan) : Option (Option Scan) :=
  match find? "[[" s.rest with
  | none => some none
  | some start => do
    let at_ := s.consumed + start
    let opened ← slice? s.rest start s.rest.utf8ByteSize
    match find? "]]" opened with
    | none => some none
    | some stop =>
      let embed ← marked? text at_
      let found ← if embed then some s.found
        else (slice? s.rest start (start + stop + 2)).map fun link => s.found ++ [⟨at_, link⟩]
      let rest ← slice? s.rest (start + stop + 2) s.rest.utf8ByteSize
      some (some ⟨s.consumed + (start + stop + 2), rest, found⟩)

def run? (text : String) (s : Scan) : Option (List ByteLink) :=
  match step? text s with
  | none => none
  | some none => some s.found
  | some (some next) => if next.rest.utf8ByteSize < s.rest.utf8ByteSize then run? text next else none
termination_by s.rest.utf8ByteSize

def links? (text : String) : Option (List ByteLink) := run? text ⟨0, text, []⟩

end Scan
end Syllabus.WikiLink
