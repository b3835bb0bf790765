import Syllabus.Text.Basic

/-! Heading lines. A heading is a line of one to six number signs, blanks and a text. The words before its first colon are
compared as a keyword: trimmed, in small letters, with one hyphen for each run of blanks and underscores. -/
namespace Syllabus

def Keyword.ofText (s : String) : String :=
  let plain := (Chars.lower (Chars.trim s.toList)).map fun c => if c = '_' then ' ' else c
  .ofList (Chars.joinWith ['-'] (Chars.words plain))

structure Heading where
  level : Nat
  text : String
  deriving DecidableEq, Repr

namespace Heading

def closing (s : List Char) : Nat :=
  let afterBlanks := s.reverse.dropWhile Text.isBlank
  let afterSigns := afterBlanks.dropWhile (· == '#')
  s.length - (afterSigns.dropWhile Text.isBlank).length

/-- The text of a heading after its signs. It starts after the blanks and keeps at least one
character before its closing signs; of blanks alone the last one is the text. -/
def textOf? (s : List Char) : Option (List Char) :=
  let text := s.dropWhile Text.isBlank
  let kept := if text.isEmpty then ((s.drop 1).filter (· != '\n')).reverse.take 1
    else text.take (max 1 (text.length - closing text))
  if kept.isEmpty || kept.contains '\n' then none else some kept

def ofChars? (s : List Char) : Option Heading :=
  let signs := s.takeWhile (· == '#')
  let rest := s.drop signs.length
  if signs.length = 0 ∨ 6 < signs.length ∨ !(rest.head?.any Text.isBlank) then none
  else (textOf? rest).map fun text => ⟨signs.length, .ofList text⟩

def ofLine? (line : String) : Option Heading := ofChars? line.toList

def label (text : String) : String × String :=
  match Text.cut? ":" text with
  | some (keyword, title) => (Keyword.ofText keyword, Text.trim title)
  | none => (Keyword.ofText text, "")

end Heading

end Syllabus
