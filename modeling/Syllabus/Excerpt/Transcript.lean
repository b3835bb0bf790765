import Syllabus.Excerpt.Words

/-! Excerpts of transcripts. With timed words, the words whose start lies between two times are
taken, both included. Otherwise the lines of the transcript are taken that start with a time from
the one on up to but not with the other, and both times must be those of lines. A transcript without
any times can only be taken whole, from its start. What is near and what is before is a matter of
the clock: seconds as binary fractions with a tolerance, or exact times. -/
namespace Syllabus

structure Clock (τ : Type) where
  ofTimestamp : Timestamp → τ
  inOrder : τ → τ → Bool
  near : τ → τ → Bool
  notBefore : τ → τ → Bool
  before : τ → τ → Bool
  notAfter : τ → τ → Bool
  text : τ → String

namespace Clock

def tolerance : Binary64 := .ofDecimal false 1 (-6)

def binary : Clock Binary64 where
  ofTimestamp := Timestamp.value
  inOrder a b := !b.lt a
  near a b := (a.sub b).abs.lt tolerance
  notBefore a b := (b.sub tolerance).le a
  before a b := a.lt (b.sub tolerance)
  notAfter a b := a.le (b.add tolerance)
  text := Timestamp.text

end Clock

structure TranscriptBlock where
  start : Timestamp
  text : String
  deriving DecidableEq, Repr

namespace Transcript

def isTimeChar (c : Char) : Bool := c.isDigit || c = ':' || c = '.'

def dropOne (c : Char) (s : List Char) : List Char :=
  match s with
  | d :: rest => if d = c then rest else s
  | [] => []

/-- A time at the start of a line, perhaps in square brackets, then a hyphen and a text. -/
def marker? (line : List Char) : Option (Timestamp × List Char) :=
  let s := dropOne '[' (Chars.trimStart line)
  let time := s.takeWhile isTimeChar
  match Chars.trimStart (dropOne ']' (s.drop time.length)) with
  | '-' :: rest => (Timestamp.ofChars? time).map fun start => (start, Chars.trim rest)
  | _ => none

def joined (texts : List String) : String := Text.joinWith " " (texts.filter fun t => !t.isEmpty)

def gather : List (List Char) → List String × List TranscriptBlock
  | [] => ([], [])
  | line :: more =>
    let (below, blocks) := gather more
    match marker? line with
    | some (start, text) => ([], ⟨start, joined (.ofList text :: below)⟩ :: blocks)
    | none => (.ofList (Chars.trim line) :: below, blocks)

def blocks (body : String) : List TranscriptBlock := (gather (Chars.lines body.toList)).2

section
variable {τ : Type} (clock : Clock τ)

def nonempty (start stop : τ) (texts : List String) : Except ExcerptFailure String :=
  let texts := texts.filter fun t => !t.isEmpty
  if texts.isEmpty then .error (.emptyExcerpt (clock.text start) (clock.text stop))
  else .ok (Text.joinWith " " texts)

def ofWords (words : List (TimedWord τ)) (start stop : τ) : Except ExcerptFailure String :=
  nonempty clock start stop
    ((words.filter fun w => clock.notBefore w.start start && clock.notAfter w.start stop).map
      fun w => Text.trim w.text)

def selected (found : List TranscriptBlock) (start stop : τ) : List String :=
  (found.filter fun b =>
    let at_ := clock.ofTimestamp b.start
    clock.notBefore at_ start && clock.before at_ stop).map TranscriptBlock.text

def hits (found : List TranscriptBlock) (time : τ) : Bool :=
  found.any fun b => clock.near (clock.ofTimestamp b.start) time

def ofBlocks (body : String) (start stop : τ) : Except ExcerptFailure String :=
  let found := blocks body
  if found.isEmpty then
    if clock.near start (clock.ofTimestamp ⟨0, []⟩) then .ok (Text.trim body)
    else .error (.untimed (clock.text start))
  else if !hits clock found start then .error (.timeNotFound (clock.text start))
  else if !hits clock found stop then .error (.timeNotFound (clock.text stop))
  else nonempty clock start stop (selected clock found start stop)

def time (s : String) : Except ExcerptFailure τ :=
  match Timestamp.read? s with
  | some t => .ok (clock.ofTimestamp t)
  | none => .error (.invalidTime (Text.trim s))

end
end Transcript

structure VideoExcerpt (τ : Type) where
  start : τ
  stop : τ
  transcript : String
  deriving DecidableEq, Repr

namespace VideoExcerpt

variable {τ : Type} (clock : Clock τ)

def extract (body start stop : String) (words : List (TimedWord τ)) : Except ExcerptFailure (VideoExcerpt τ) := do
  let first ← Transcript.time clock start
  let last ← Transcript.time clock stop
  if !clock.inOrder first last then .error (.outOfOrder (Text.trim start) (Text.trim stop))
  else
    let transcript ← if words.isEmpty then Transcript.ofBlocks clock body first last
      else Transcript.ofWords clock words first last
    .ok ⟨first, last, transcript⟩

end VideoExcerpt
end Syllabus
