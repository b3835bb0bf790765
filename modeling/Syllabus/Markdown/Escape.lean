import Syllabus.Markdown.EntityTable
import Syllabus.Number.Literal
import Syllabus.Text.Basic
import Syllabus.Text.Punctuation

/-! Characters that stand for others: a backslash before ASCII punctuation, and the named and
numbered characters of HTML between an ampersand and a semicolon. -/
namespace Syllabus.Markdown
open Text (isAsciiPunctuation)

def replacement : Char := '\uFFFD'

def ofCode (code : Nat) : Char :=
  if h : code ≠ 0 ∧ code.isValidChar then Char.ofNatAux code h.2 else replacement

def isAlphanumeric (c : Char) : Bool := c.isAlpha || c.isDigit

def namedCharacter? (name : String) : Option (List Char) := do
  let entry ← entityRows.findSome? fun row =>
    ((Text.splitOn ' ' row).find? fun entry => Text.startsWith (name ++ ":") entry)
  let codes ← Text.after? (name ++ ":") entry
  (Text.splitOn '+' codes).mapM fun code => (Literal.natural? 16 code.toList).map ofCode

def numberedCharacter? (s : List Char) : Option (List Char × List Char) :=
  let (base, most, digits) := match s with
    | 'x' :: rest | 'X' :: rest => (16, 6, rest)
    | _ => (10, 7, s)
  let run := (digits.take most).takeWhile fun c => (Literal.digit? base c).isSome
  match digits.drop run.length with
  | ';' :: rest => (Literal.natural? base run).map fun code => ([ofCode code], rest)
  | _ => none

def entity? : List Char → Option (List Char × List Char)
  | '#' :: rest => numberedCharacter? rest
  | s =>
    let name := s.takeWhile isAlphanumeric
    match s.drop name.length with
    | ';' :: rest => if name.isEmpty then none else (namedCharacter? (.ofList name)).map fun cs => (cs, rest)
    | _ => none

def unescapeFrom : Nat → List Char → List Char
  | 0, s => s
  | _, [] => []
  | n + 1, '\\' :: c :: rest =>
    if isAsciiPunctuation c then c :: unescapeFrom n rest else '\\' :: unescapeFrom n (c :: rest)
  | n + 1, '&' :: rest =>
    match entity? rest with
    | some (characters, tail) => characters ++ unescapeFrom n tail
    | none => '&' :: unescapeFrom n rest
  | n + 1, c :: rest => c :: unescapeFrom n rest

def unescape (s : List Char) : List Char := unescapeFrom s.length s

end Syllabus.Markdown
