import Syllabus.Text.Basic

/-! The distance between two texts: the fewest insertions, deletions and replacements of characters
and swaps of neighbours, where a swapped pair may have been pulled apart or pushed together by
other steps. Case does not count. The table of distances between beginnings is filled row by row;
a swap looks back to the last row and column where the two characters met. -/
namespace Syllabus.EditDistance

structure Table where
  rows : Array (Array Nat)
  lastRow : List (Char × Nat)
  deriving Repr

def rowOf (t : Table) (c : Char) : Nat :=
  ((t.lastRow.find? fun entry => entry.1 == c).map Prod.snd).getD 0

def entry (t : Table) (row column : Nat) : Nat := (t.rows.getD row #[]).getD column 0

def cell (t : Table) (a b : Char) (i j left lastColumn : Nat) : Nat :=
  let plain := min (entry t (i - 1) j + 1) (left + 1)
  let kept := min plain (entry t (i - 1) (j - 1) + if a == b then 0 else 1)
  let row := rowOf t b
  if row = 0 ∨ lastColumn = 0 then kept
  else min kept (entry t (row - 1) (lastColumn - 1) + (i - row - 1) + 1 + (j - lastColumn - 1))

def nextRow (t : Table) (second : List Char) (a : Char) (i : Nat) : Array Nat :=
  let start : Array Nat × Nat := (#[i], 0)
  let filled := (second.zipIdx 1).foldl (fun (row, lastColumn) (b, j) =>
    (row.push (cell t a b i j (row.getD (j - 1) 0) lastColumn), if a == b then j else lastColumn)) start
  filled.1

def ofChars (first second : List Char) : Nat :=
  let start : Table := ⟨#[Array.range (second.length + 1)], []⟩
  let table := (first.zipIdx 1).foldl (fun t (a, i) =>
    ⟨t.rows.push (nextRow t second a i), (a, i) :: t.lastRow⟩) start
  entry table first.length second.length

def between (a b : String) : Nat := ofChars (Chars.lower a.toList) (Chars.lower b.toList)

end Syllabus.EditDistance

namespace Syllabus.Suggestion

/-- The first of the candidates nearest to what was meant, with its distance, if any is within
`most`. The distance is a parameter: nothing here depends on which one it is. -/
def nearest? (distance : String → Nat) (most : Nat) : List String → Option (Nat × String)
  | [] => none
  | candidate :: more =>
    let here := distance candidate
    match nearest? distance most more with
    | some (best, other) => if here ≤ best then some (here, candidate) else some (best, other)
    | none => if here ≤ most then some (here, candidate) else none

def closest? (needle : String) (candidates : List String) (most : Nat) : Option String :=
  (nearest? (EditDistance.between needle) most candidates).map Prod.snd

end Syllabus.Suggestion
