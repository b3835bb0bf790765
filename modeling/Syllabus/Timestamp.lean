import Syllabus.Number.Literal
import Syllabus.Text.Basic

/-! Times in a recording, as authors write them: `M:SS`, `MM:SS` or `H:MM:SS`, with an optional
fraction of a second. A written time is held exactly, as whole seconds and decimal digits; as a
number it is the rounded sum of the two. Only ASCII digits count: a text with other digits in it
is no time. -/
namespace Syllabus

structure Timestamp where
  seconds : Nat
  fraction : List Char
  deriving DecidableEq, Repr

namespace Timestamp

def secondLimit : Nat := UInt64.size

structure Face where
  hours : Option (List Char)
  minutes : List Char
  seconds : List Char
  fraction : List Char
  deriving DecidableEq, Repr

def digits (digit : Char → Bool) (s : List Char) : Bool := !s.isEmpty && s.all digit

def number (s : List Char) : Nat := s.foldl (fun n c => 10 * n + (c.toNat - 48)) 0

def secondsPart? (digit : Char → Bool) (s : List Char) : Option (List Char × List Char) :=
  match Chars.cut? ['.'] s with
  | none => some (s, [])
  | some (whole, fraction) => if digits digit fraction then some (whole, fraction) else none

def wellFormed (digit : Char → Bool) (f : Face) : Bool :=
  f.hours.all (digits digit) && digits digit f.minutes && f.minutes.length ≤ 2 && digits digit f.seconds &&
    f.seconds.length = 2

def ofFields? (digit : Char → Bool) (hours : Option (List Char)) (minutes last : List Char) : Option Face :=
  (secondsPart? digit last).bind fun (seconds, fraction) =>
    let f : Face := ⟨hours, minutes, seconds, fraction⟩
    if wellFormed digit f then some f else none

def faceOf? (digit : Char → Bool) (s : List Char) : Option Face :=
  match Chars.splitOn (· == ':') s with
  | [minutes, last] => ofFields? digit none minutes last
  | [hours, minutes, last] => ofFields? digit (some hours) minutes last
  | _ => none

def face? (s : List Char) : Option Face := faceOf? Char.isDigit s

def ofFace? (f : Face) : Option Timestamp :=
  let hours := f.hours.elim 0 number
  let minutes := number f.minutes
  let seconds := number f.seconds
  let total := hours * 3600 + (minutes * 60 + seconds)
  if seconds < 60 ∧ (f.hours.isSome → minutes < 60) ∧ hours < secondLimit ∧ total < secondLimit then
    some ⟨total, f.fraction⟩
  else none

def ofChars? (s : List Char) : Option Timestamp := (face? s).bind ofFace?

def read? (s : String) : Option Timestamp := ofChars? (Chars.trim s.toList)

def value (t : Timestamp) : Binary64 :=
  (Binary64.ofNat t.seconds).add (.ofDecimal false (number t.fraction) (-(t.fraction.length : Int)))

def twoDigits (n : Nat) : List Char := [Nat.digitChar (n / 10), Nat.digitChar (n % 10)]

def millisText (n : Nat) : List Char :=
  let places := [Nat.digitChar (n / 100), Nat.digitChar (n / 10 % 10), Nat.digitChar (n % 10)]
  if n = 0 then []
  else if n % 100 = 0 then '.' :: places.take 1
  else if n % 10 = 0 then '.' :: places.take 2
  else '.' :: places

def ofMillis (millis : Nat) : List Char :=
  let whole := millis / 1000
  let hours := whole / 3600
  let minutes := whole % 3600 / 60
  (if 0 < hours then Nat.toDigits 10 hours ++ ':' :: twoDigits minutes else Nat.toDigits 10 minutes)
    ++ ':' :: twoDigits (whole % 60) ++ millisText (millis % 1000)

def mostMillis : Nat := UInt64.size - 1

def nearest (x : Binary64) : Nat :=
  match x with
  | .finite _ units => min ((2 * units + Binary64.one) / (2 * Binary64.one)) mostMillis
  | _ => mostMillis

def millis (x : Binary64) : Nat :=
  match x with
  | .undefined | .infinite true | .finite true _ => 0
  | .infinite false => mostMillis
  | .finite false _ => nearest (x.mul (.ofNat 1000))

def text (x : Binary64) : String := .ofList (ofMillis (millis x))

end Timestamp
end Syllabus
