/-! Lines of a Markdown text. A line ends with a line feed, a carriage return, or both in that order.
At the start of a line blanks are counted in columns: a tab reaches to the next tab stop, and what a
container does not use of it stays for the content. -/
namespace Syllabus.Markdown

def isSpace (c : Char) : Bool := c = ' ' || c = '\t' || c = '\x0b' || c = '\x0c'

def isLineEnd (c : Char) : Bool := c = '\n' || c = '\r'

def skipSpaces (s : List Char) : List Char := s.dropWhile isSpace

def unindented (s : List Char) : List Char := s.dropWhile fun c => c = ' ' || c = '\t'

def lineEndLength : List Char → Nat
  | '\r' :: '\n' :: _ => 2
  | c :: _ => if isLineEnd c then 1 else 0
  | [] => 0

def afterLineEnd? (s : List Char) : Option (List Char) :=
  match s, lineEndLength s with
  | [], _ => some []
  | _, 0 => none
  | s, n => some (s.drop n)

def afterBlankLine? (s : List Char) : Option (List Char) := afterLineEnd? (skipSpaces s)

def afterLineFeed (s : List Char) : List Char := (s.dropWhile (· != '\n')).drop 1

abbrev Continuation := List Char → Option (List Char)

def rowsOf (s : List Char) : Nat := s.count '\n'

structure LineStart where
  rest : List Char
  column : Nat
  spare : Nat
  before : Char
  deriving Repr

namespace LineStart

def ofText (s : List Char) : LineStart := ⟨s, 0, 0, ' '⟩

def tabStop : Nat := 4

def blanks (before : Char) : (wanted column : Nat) → List Char → Nat × LineStart
  | 0, column, rest => (0, ⟨rest, column, 0, before⟩)
  | wanted + 1, column, ' ' :: rest => blanks ' ' wanted (column + 1) rest
  | wanted + 1, column, '\t' :: rest =>
    let width := tabStop - column % tabStop
    if width ≤ wanted + 1 then blanks ' ' (wanted + 1 - width) 0 rest
    else (0, ⟨rest, 0, width - (wanted + 1), ' '⟩)
  | wanted, column, rest => (wanted, ⟨rest, column, 0, before⟩)

def skip (p : LineStart) (columns : Nat) : Nat × LineStart :=
  if columns ≤ p.spare then (0, { p with spare := p.spare - columns })
  else blanks p.before (columns - p.spare) p.column p.rest

def advance (p : LineStart) (n : Nat) : LineStart :=
  { p with rest := p.rest.drop n, column := p.column + n, before := (p.rest.take n).getLast?.getD p.before }

def unindented (p : LineStart) : LineStart :=
  let rest := Markdown.unindented p.rest
  if rest.length = p.rest.length then p else { p with rest, before := ' ' }

def atLineEnd (p : LineStart) : Bool := p.rest.head?.all isLineEnd

def codeIndent : Nat := 4

end LineStart
end Syllabus.Markdown
