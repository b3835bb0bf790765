import Syllabus.Failure
import Syllabus.Json.Reader
import Syllabus.Json.Record
import Syllabus.Timestamp

/-! Words with the times at which they are spoken, from a file beside a transcript: a JSON list of
records of a text and a start. A start is a number of seconds, a written time, or a number written
as a text. -/
namespace Syllabus

structure TimedWord (τ : Type) where
  text : String
  start : τ
  deriving Repr

namespace TimedWord

def special? (s : List Char) : Option Binary64 :=
  let (negative, word) := Literal.sign s
  let word := String.ofList (word.map Char.toLower)
  if word == "inf" || word == "infinity" then some (.infinite negative)
  else if word == "nan" then some .undefined
  else none

def secondsOfText? (s : String) : Option Binary64 :=
  let number := Chars.trim s.toList
  ((Timestamp.read? s).map Timestamp.value).or ((Literal.binary? number).or (special? number))

def seconds? : Json → Option Binary64
  | .number (.integer n) => some (.ofInt n)
  | .number (.real x) => some x
  | .text s => secondsOfText? s
  | _ => none

def ofJson? (j : Json) : Option (TimedWord Binary64) := do
  let members ← j.record? [⟨"text", true⟩, ⟨"start", true⟩]
  match members with
  | [some (.text text), some start] => (seconds? start).map fun at_ => ⟨text, at_⟩
  | _ => none

def ofList? (text : String) : Option (List (TimedWord Binary64)) :=
  match Json.read? text with
  | some (.list items) => items.mapM ofJson?
  | _ => none

def parse [Library] (text : String) : Except ExcerptFailure (List (TimedWord Binary64)) :=
  (ofList? text).elim (.error (@ExcerptFailure.invalidWords (Library.words text))) .ok

end TimedWord
end Syllabus
