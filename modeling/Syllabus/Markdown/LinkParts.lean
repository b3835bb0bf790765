import Syllabus.Markdown.Escape
import Syllabus.Markdown.Line
import Syllabus.Text.CaseFold

/-! The parts of links and of their definitions: labels, destinations and titles. Each reader takes
the text behind the character that opens the part and gives what it read and the text that is left.
Parts that may go over the end of a line are told where the text goes on behind it. -/
namespace Syllabus.Markdown
open Text (isAsciiPunctuation)

def pointed? : List Char → Option (List Char × List Char)
  | [] => none
  | '\\' :: c :: rest =>
    if isAsciiPunctuation c then (pointed? rest).map fun (url, tail) => ('\\' :: c :: url, tail)
    else (pointed? (c :: rest)).map fun (url, tail) => ('\\' :: url, tail)
  | c :: rest =>
    if c = '>' then some ([], rest)
    else if c = '<' || isLineEnd c then none
    else (pointed? rest).map fun (url, tail) => (c :: url, tail)

def mostNesting : Nat := 33

def bare? : (nesting : Nat) → List Char → Option (List Char × List Char)
  | nesting, [] => if nesting = 0 then some ([], []) else none
  | nesting, '\\' :: c :: rest =>
    if isAsciiPunctuation c then (bare? nesting rest).map fun (url, tail) => ('\\' :: c :: url, tail)
    else (bare? nesting (c :: rest)).map fun (url, tail) => ('\\' :: url, tail)
  | nesting, c :: rest =>
    if c ≤ ' ' then if nesting = 0 then some ([], c :: rest) else none
    else if c = '(' then
      if nesting < mostNesting then (bare? (nesting + 1) rest).map fun (url, tail) => (c :: url, tail) else none
    else if c = ')' then
      if nesting = 0 then some ([], c :: rest)
      else (bare? (nesting - 1) rest).map fun (url, tail) => (c :: url, tail)
    else (bare? nesting rest).map fun (url, tail) => (c :: url, tail)

def destination? : List Char → Option (List Char × List Char)
  | '<' :: rest => pointed? rest
  | s => bare? 0 s

def titleUpTo? (next : Continuation) (opener close : Char) : Nat → List Char → Option (List Char × List Char)
  | 0, _ => none
  | _, [] => none
  | n + 1, '\\' :: c :: rest =>
    if isAsciiPunctuation c then
      (titleUpTo? next opener close n rest).map fun (title, tail) => ('\\' :: c :: title, tail)
    else (titleUpTo? next opener close n (c :: rest)).map fun (title, tail) => ('\\' :: title, tail)
  | n + 1, c :: rest =>
    if c = close then some ([], rest)
    else if c = opener then none
    else if isLineEnd c then
      (next ((c :: rest).drop (lineEndLength (c :: rest)))).bind fun inside =>
        (titleUpTo? next opener close n inside).map fun (title, tail) => ('\n' :: title, tail)
    else (titleUpTo? next opener close n rest).map fun (title, tail) => (c :: title, tail)

def title? (next : Continuation) (s : List Char) : Option (List Char × List Char) :=
  match s with
  | '"' :: rest => titleUpTo? next '"' '"' s.length rest
  | '\'' :: rest => titleUpTo? next '\'' '\'' s.length rest
  | '(' :: rest => titleUpTo? next '(' ')' s.length rest
  | _ => none

def afterBlanks? (next : Continuation) (s : List Char) : Option (Nat × List Char) :=
  let before := s.takeWhile isSpace
  let rest := s.drop before.length
  match lineEndLength rest with
  | 0 => some (before.length, rest)
  | n =>
    (next (rest.drop n)).bind fun inside =>
      let tail := skipSpaces inside
      if tail.head?.any isLineEnd then none else some (s.length - tail.length, tail)

/-- Labels weigh less than this. Blanks and escapes count by their characters, other characters
beyond ASCII by their octets, and those of ASCII not at all. -/
def labelLimit : Nat := 1000

def labelFrom? (next : Continuation) :
    Nat → (solid : Bool) → (weight : Nat) → List Char → Option (List Char × List Char)
  | 0, _, _, _ => none
  | n + 1, solid, weight, s =>
    if labelLimit ≤ weight then none
    else match s with
      | [] | '[' :: _ => none
      | ']' :: rest => if solid then some ([], rest) else none
      | c :: rest =>
        if c = '\\' && rest.head?.any isAsciiPunctuation then
          (labelFrom? next n true (weight + 2) (rest.drop 1)).map fun (label, tail) => (c :: rest.take 1 ++ label, tail)
        else if isSpace c || isLineEnd c then
          (afterBlanks? next s).bind fun (width, inside) =>
            (labelFrom? next n solid (weight + width) inside).map fun (label, tail) => (' ' :: label, tail)
        else
          let octets := if c.toNat < 0x80 then 0 else c.utf8Size
          (labelFrom? next n true (weight + octets) rest).map fun (label, tail) => (c :: label, tail)

def trimmed (label : List Char) : List Char :=
  let start := label.dropWhile (· == ' ')
  (start.reverse.dropWhile (· == ' ')).reverse

def label? (next : Continuation) (s : List Char) : Option (List Char × List Char) :=
  (labelFrom? next (s.length + 1) false 0 s).map fun (label, tail) =>
    ((trimmed label).flatMap Text.foldChar, tail)

def skipSeparator (next : Continuation) (s : List Char) : List Char :=
  let s := skipSpaces s
  match lineEndLength s with
  | 0 => s
  | n => skipSpaces ((next (s.drop n)).getD (s.drop n))

def inlineTarget? (next inTitle : Continuation) (s : List Char) : Option (List Char × List Char) := do
  let (url, rest) ← destination? (skipSeparator next s)
  let rest := skipSeparator next rest
  let rest := ((title? inTitle rest).map fun (_, tail) => skipSeparator next tail).getD rest
  match rest with
  | ')' :: tail => some (unescape url, tail)
  | _ => none

structure Definition where
  label : List Char
  url : List Char
  title : List Char
  deriving Repr

def Definition.weight (d : Definition) : Nat := (d.url ++ d.title).foldl (fun n c => n + c.utf8Size) 0

def separated? (next : Continuation) (s : List Char) : Option (List Char × Bool) :=
  match skipSpaces s with
  | [] => none
  | s =>
    match lineEndLength s with
    | 0 => some (s, false)
    | n =>
      (next (s.drop n)).bind fun inside =>
        match skipSpaces inside with
        | [] => none
        | c :: rest => if isLineEnd c then none else some (c :: rest, true)

def definition? (inLabel between inTitle : Continuation) : List Char → Option (Definition × List Char)
  | '[' :: s => do
    let (label, rest) ← label? inLabel s
    let rest ← match rest with
      | ':' :: rest => (separated? between rest).map Prod.fst
      | _ => none
    let (url, after) ← destination? rest
    if url.isEmpty && rest.head? ≠ some '<' then none
    else
      let found : Definition := ⟨label, unescape url, []⟩
      match separated? between after with
      | none => some (found, after)
      | some (rest, broken) =>
        if !broken && !after.head?.any isSpace then none
        else match (title? inTitle rest).filter fun (_, tail) => (afterBlankLine? tail).isSome with
          | some (title, tail) => some ({ found with title := unescape title }, tail)
          | none => if broken then some (found, after) else none
  | _ => none

end Syllabus.Markdown
