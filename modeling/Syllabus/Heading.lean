import Syllabus.Keyword

/-! Headings of a text and the sections they cut it into. A heading counts wherever it stands outside a code fence; a line
that opens or closes a fence is never one. Splitting at a level and listing all headings each go through the lines with a
fence of their own. -/
namespace Syllabus

def isFence (line : String) : Bool :=
  let start := Chars.trimStart line.toList
  "\x60\x60\x60".toList.isPrefixOf start || "~~~".toList.isPrefixOf start

structure HeadingLine where
  line : Nat
  heading : Heading
  deriving DecidableEq, Repr

def headingsFrom (fenced : Bool) (n : Nat) : List String → List HeadingLine
  | [] => []
  | line :: more =>
    if isFence line then headingsFrom (!fenced) (n + 1) more
    else if fenced then headingsFrom fenced (n + 1) more
    else match Heading.ofLine? line with
      | some h => ⟨n, h⟩ :: headingsFrom fenced (n + 1) more
      | none => headingsFrom fenced (n + 1) more

def headings (text : String) (first : Nat) : List HeadingLine := headingsFrom false first (Text.lines text)

structure Section where
  heading : String
  line : Nat
  content : String
  deriving DecidableEq, Repr

namespace Section

def keyword (s : Section) : String := (Heading.label s.heading).1

def title (s : Section) : String := (Heading.label s.heading).2

def contentLine (s : Section) : Nat := s.line + 1

end Section

structure Sections where
  preamble : String
  preambleLine : Nat
  sections : List Section
  deriving DecidableEq, Repr

/-- The lines before the first heading of the level, and each such heading with its line number and the lines below it.
A line that closes a fence is read as those below it are. -/
def splitFrom (level : Nat) (fenced : Bool) (n : Nat) : List String → List String × List (String × Nat × List String)
  | [] => ([], [])
  | line :: more =>
    let fenced := if isFence line then !fenced else fenced
    let (before, sections) := splitFrom level fenced (n + 1) more
    match (if fenced then none else Heading.ofLine? line).filter fun h => h.level == level with
    | some h => ([], (h.text, n, before) :: sections)
    | none => (line :: before, sections)

def Sections.split (text : String) (level first : Nat) : Sections :=
  let (before, sections) := splitFrom level false first (Text.lines text)
  ⟨Text.joinWith "\n" before, first,
    sections.map fun (heading, line, below) => ⟨heading, line, Text.joinWith "\n" below⟩⟩

end Syllabus
