import Syllabus.Excerpt.Article

/-! Excerpts by the bytes of an article, folded in one pass and with every step checked: a difference below zero, a
place beyond a list and a slice that is none of the article have no answer, and without it nothing has. -/
namespace Syllabus

structure ByteSpan where
  start : Nat
  stop : Nat
  deriving DecidableEq, Repr

structure Folding where
  chars : List Char
  spans : List ByteSpan
  spaced : Bool
  place : Nat
  deriving DecidableEq, Repr

namespace Folding
open Text (isBlank)

def stretched (spans : List ByteSpan) (stop : Nat) : List ByteSpan :=
  spans.modify (spans.length - 1) fun last => { last with stop }

def step (f : Folding) (c : Char) : Folding :=
  let stop := f.place + c.utf8Size
  if isBlank c then
    if f.spaced then ⟨f.chars, stretched f.spans stop, true, stop⟩
    else ⟨f.chars ++ [' '], f.spans ++ [⟨f.place, stop⟩], true, stop⟩
  else
    let small := Anchor.foldChar c
    ⟨f.chars ++ small, f.spans ++ small.map fun _ => ⟨f.place, stop⟩, false, stop⟩

def run (s : List Char) : Folding := s.foldl step ⟨[], [], false, 0⟩

def less? (n m : Nat) : Option Nat := if m ≤ n then some (n - m) else none

def window? (s : List Char) (i j : Nat) : Option (List Char) :=
  if i ≤ j ∧ j ≤ s.length then some ((s.take j).drop i) else none

def matching? (text needle : List Char) : List Nat → Option (List Nat)
  | [] => some []
  | i :: places => do
    let here ← window? text i (i + needle.length)
    let later ← matching? text needle places
    some (if here = needle then i :: later else later)

def occurrences? (text needle : Folding) (first : Nat) : Option (List Nat) :=
  if needle.chars.length = 0 ∨ text.chars.length < needle.chars.length then some []
  else do
    let last ← less? text.chars.length needle.chars.length
    matching? text.chars needle.chars (List.range' first (last + 1 - first))

end Folding

structure ByteExcerpt where
  content : String
  start : Nat
  stop : Nat
  deriving DecidableEq, Repr

namespace ByteExcerpt

/-- The bytes from `start` up to `stop` are a slice of the text: both ends lie in it, in order and at characters. -/
def Slices (s : String) (start stop : Nat) : Prop :=
  start ≤ stop ∧ stop ≤ s.utf8ByteSize ∧ String.Pos.Raw.IsValid s ⟨start⟩ ∧ String.Pos.Raw.IsValid s ⟨stop⟩

instance (s : String) (start stop : Nat) : Decidable (Slices s start stop) := inferInstanceAs (Decidable (_ ∧ _))

def slice? (s : String) (start stop : Nat) : Option String :=
  if Slices s start stop then some (String.Pos.Raw.extract s ⟨start⟩ ⟨stop⟩) else none

def place? (text : Folding) (anchor : List Char) (first : Nat) : Option (Except ExcerptFailure Nat) :=
  (text.occurrences? (Folding.run anchor) first).map fun
    | [] => .error (.anchorNotFound (.ofList anchor))
    | [one] => .ok one
    | many => .error (.ambiguousAnchor (.ofList anchor) many.length)

def startOf? (text : Folding) : Option (List Char) → Option (Except ExcerptFailure (Nat × Nat))
  | none => some (.ok (0, 0))
  | some anchor => do
    match ← place? text anchor 0 with
    | .error e => some (.error e)
    | .ok at_ =>
      let span ← text.spans[at_]?
      some (.ok (at_, span.start))

def stopOf? (text : Folding) (size first : Nat) (start : Option (List Char)) :
    Option (List Char) → Option (Except ExcerptFailure Nat)
  | none => some (.ok size)
  | some anchor => do
    match ← place? text anchor first with
    | .error e => some (.error (ArticleExcerpt.afterStart start e))
    | .ok at_ =>
      let last ← Folding.less? (at_ + (Folding.run anchor).chars.length) 1
      let span ← text.spans[last]?
      some (.ok span.stop)

def extract? (body : String) (request : ExcerptRequest) : Option (Except ExcerptFailure ByteExcerpt) := do
  let text := Folding.run body.toList
  let start := Anchor.given? request.start
  match ← startOf? text start with
  | .error e => some (.error e)
  | .ok (first, startAt) =>
    match ← stopOf? text body.utf8ByteSize first start (Anchor.given? request.stop) with
    | .error e => some (.error e)
    | .ok stopAt =>
      let content ← slice? body startAt stopAt
      some (.ok ⟨.ofList (Chars.trim content.toList), startAt, stopAt⟩)

end ByteExcerpt

structure Bundling where
  reach : Nat
  tail : Option (Nat × Nat)
  results : List (Except ExcerptFailure BundledExcerpt)

namespace Bundling

def collapsed? (body : String) (start stop : Nat) : Option (Option String) :=
  (ByteExcerpt.slice? body start stop).map fun text =>
    let trimmed := Chars.trim text.toList
    if trimmed.isEmpty then none else some (.ofList trimmed)

def step? (body : String) (b : Bundling) (request : ExcerptRequest) : Option Bundling := do
  match ← ByteExcerpt.extract? body request with
  | .error e => some { b with results := b.results ++ [.error e] }
  | .ok excerpt =>
    let before ← if b.reach ≤ excerpt.start then collapsed? body b.reach excerpt.start else some none
    some ⟨max b.reach excerpt.stop, some (b.results.length, excerpt.stop),
      b.results ++ [.ok ⟨excerpt.content, before, none⟩]⟩

def close? (body : String) (b : Bundling) : Option (List (Except ExcerptFailure BundledExcerpt)) :=
  match b.tail with
  | none => some b.results
  | some (last, stop) =>
    (collapsed? body stop body.utf8ByteSize).map fun after =>
      b.results.modify last (Except.map fun excerpt => { excerpt with after })

def bundle? (body : String) (requests : List ExcerptRequest) :
    Option (List (Except ExcerptFailure BundledExcerpt)) := do
  let b ← requests.foldlM (step? body) ⟨0, none, []⟩
  close? body b

end Bundling
end Syllabus
