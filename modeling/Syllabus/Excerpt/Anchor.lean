import Syllabus.Text.Basic

/-! Anchors: words of an article that mark a place in it. They match without regard to case, to the
shape of quotation marks and to the width of blanks. The search runs over a folded copy of the
article in which every character knows the stretch of the article it stands for. -/
namespace Syllabus

structure FoldedChar where
  char : Char
  start : Nat
  stop : Nat
  deriving DecidableEq, Repr

namespace Anchor
open Text (isBlank)

def straight (c : Char) : Char :=
  if c = '\u2018' || c = '\u2019' then '\x27'
  else if c = '\u201c' || c = '\u201d' then '"'
  else c

def foldChar (c : Char) : List Char := Text.lowerChar (straight c)

/-- The folded text from an offset on; a run of blanks is one space that stands for the whole run. -/
def fold (offset : Nat) : List Char → List FoldedChar
  | [] => []
  | c :: rest =>
    if isBlank c then
      match rest.head?.any isBlank, fold (offset + 1) rest with
      | true, space :: more => { space with start := offset } :: more
      | _, more => ⟨' ', offset, offset + 1⟩ :: more
    else (foldChar c).map (fun d => ⟨d, offset, offset + 1⟩) ++ fold (offset + 1) rest

def foldText (s : List Char) : List Char := (fold 0 s).map FoldedChar.char

def unquoted? (s : List Char) : Option (List Char) :=
  let inside (first last : Char) : Option (List Char) :=
    ([first].isPrefixOf? s).bind fun rest => [last].isSuffixOf? rest
  (inside '"' '"').or (inside '\u201c' '\u201d')

def plain (s : List Char) : List Char :=
  let trimmed := Chars.trim s
  ((unquoted? trimmed).map Chars.trim).getD trimmed

def given? (anchor : Option String) : Option (List Char) :=
  (anchor.map fun s => plain s.toList).filter fun s => !s.isEmpty

def occurrencesFrom (needle : List Char) (at_ : Nat) : List Char → List Nat
  | [] => []
  | c :: rest =>
    let later := occurrencesFrom needle (at_ + 1) rest
    if needle.isPrefixOf (c :: rest) then at_ :: later else later

def occurrences (needle text : List Char) (first : Nat) : List Nat :=
  if needle.isEmpty then [] else occurrencesFrom needle first (text.drop first)

end Anchor
end Syllabus
