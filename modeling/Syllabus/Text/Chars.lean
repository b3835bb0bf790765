/-! Text as a list of characters: blanks (the twenty-five characters with the property White_Space), trimming, cutting,
lines and words. Every function here is structural, so that a law about it is one induction. -/
namespace Syllabus

namespace Text

def blankRanges : List (Nat × Nat) :=
  [(0x09, 0x0D), (0x20, 0x20), (0x85, 0x85), (0xA0, 0xA0), (0x1680, 0x1680), (0x2000, 0x200A),
   (0x2028, 0x2029), (0x202F, 0x202F), (0x205F, 0x205F), (0x3000, 0x3000)]

def inRanges (table : List (Nat × Nat)) (c : Char) : Bool :=
  table.any fun (lo, hi) => lo ≤ c.toNat && c.toNat ≤ hi

def isBlank (c : Char) : Bool := inRanges blankRanges c

end Text

namespace Chars
open Text (isBlank)

def trimStart (s : List Char) : List Char := s.dropWhile isBlank

def trimEnd (s : List Char) : List Char :=
  s.foldr (fun c rest => if rest.isEmpty && isBlank c then [] else c :: rest) []

def trim (s : List Char) : List Char := trimEnd (trimStart s)

def blank (s : List Char) : Bool := s.all isBlank

def cut? (needle : List Char) : List Char → Option (List Char × List Char)
  | [] => if needle.isEmpty then some ([], []) else none
  | c :: rest =>
    match needle.isPrefixOf? (c :: rest) with
    | some tail => some ([], tail)
    | none => (cut? needle rest).map fun (before, tail) => (c :: before, tail)

theorem cutNil (needle : List Char) : cut? needle [] = if needle.isEmpty then some ([], []) else none := rfl

theorem cutStep (needle : List Char) (c : Char) (rest : List Char) : cut? needle (c :: rest) =
    match needle.isPrefixOf? (c :: rest) with
    | some tail => some ([], tail)
    | none => (cut? needle rest).map fun (before, tail) => (c :: before, tail) := rfl

def contains (needle s : List Char) : Bool := (cut? needle s).isSome

def splitOn (sep : Char → Bool) : List Char → List (List Char)
  | [] => [[]]
  | c :: rest =>
    if sep c then [] :: splitOn sep rest
    else match splitOn sep rest with
      | [] => [[c]]
      | piece :: pieces => (c :: piece) :: pieces

/-- Lines without their ends. A line ends with a line feed, with or without a carriage return
before it; a carriage return elsewhere is text. -/
def lines : List Char → List (List Char)
  | [] => []
  | c :: rest =>
    if c = '\n' then [] :: lines rest
    else if c = '\r' ∧ rest.head? = some '\n' then lines rest
    else match lines rest with
      | [] => [[c]]
      | line :: more => (c :: line) :: more

def rawLines : List Char → List (List Char)
  | [] => []
  | c :: rest =>
    if c = '\n' then [c] :: rawLines rest
    else match rawLines rest with
      | [] => [[c]]
      | line :: more => (c :: line) :: more

def words : List Char → List (List Char)
  | [] => []
  | c :: rest =>
    if isBlank c then words rest
    else match rest.head?, words rest with
      | some d, word :: more => if isBlank d then [c] :: word :: more else (c :: word) :: more
      | _, more => [c] :: more

def joinWith (sep : List Char) : List (List Char) → List Char
  | [] => []
  | [piece] => piece
  | piece :: more => piece ++ sep ++ joinWith sep more

theorem rawLinesJoin (s : List Char) : (rawLines s).flatten = s := by
  induction s with
  | nil => rfl
  | cons c rest ih =>
    rw [rawLines]
    split
    · simpa using ih
    · split <;> simp_all

end Chars
end Syllabus
