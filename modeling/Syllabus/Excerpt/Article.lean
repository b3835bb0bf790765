import Syllabus.Excerpt.Anchor
import Syllabus.Failure

/-! Excerpts of articles. An excerpt runs from the first character of its start anchor, or of the
article, to the last character of its end anchor, or of the article. Each anchor must occur exactly
once; the end anchor is looked for from the start anchor on. Between the excerpts of one article
the text is kept as collapsed. -/
namespace Syllabus

structure ExcerptRequest where
  start : Option String
  stop : Option String
  deriving DecidableEq, Repr

structure ArticleExcerpt where
  content : String
  start : Nat
  stop : Nat
  deriving DecidableEq, Repr

namespace ArticleExcerpt

def place (text : List FoldedChar) (anchor : List Char) (first : Nat) : Except ExcerptFailure Nat :=
  match Anchor.occurrences (Anchor.foldText anchor) (text.map FoldedChar.char) first with
  | [] => .error (.anchorNotFound (.ofList anchor))
  | [one] => .ok one
  | many => .error (.ambiguousAnchor (.ofList anchor) many.length)

def startOf (text : List FoldedChar) : Option (List Char) → Except ExcerptFailure (Nat × Nat)
  | none => .ok (0, 0)
  | some anchor => (place text anchor 0).map fun at_ => (at_, (text[at_]?.map FoldedChar.start).getD 0)

def afterStart (start : Option (List Char)) : ExcerptFailure → ExcerptFailure
  | .anchorNotFound stop => start.elim (.anchorNotFound stop) fun s => .endNotFound (.ofList s) stop
  | other => other

def stopOf (text : List FoldedChar) (length first : Nat) (start : Option (List Char)) :
    Option (List Char) → Except ExcerptFailure Nat
  | none => .ok length
  | some anchor =>
    match place text anchor first with
    | .error e => .error (afterStart start e)
    | .ok at_ =>
      let last := at_ + (Anchor.foldText anchor).length - 1
      .ok ((text[last]?.map FoldedChar.stop).getD length)

def slice (body : List Char) (start stop : Nat) : List Char := (body.take stop).drop start

def extract (body : String) (request : ExcerptRequest) : Except ExcerptFailure ArticleExcerpt := do
  let chars := body.toList
  let text := Anchor.fold 0 chars
  let start := Anchor.given? request.start
  let (first, startAt) ← startOf text start
  let stopAt ← stopOf text chars.length first start (Anchor.given? request.stop)
  .ok ⟨.ofList (Chars.trim (slice chars startAt stopAt)), startAt, stopAt⟩

end ArticleExcerpt

structure BundledExcerpt where
  content : String
  before : Option String
  after : Option String
  deriving DecidableEq, Repr

namespace BundledExcerpt

def collapsed? (body : String) (start stop : Nat) : Option String :=
  let text := Chars.trim (ArticleExcerpt.slice body.toList start stop)
  if text.isEmpty then none else some (.ofList text)

def around (body : String) :
    (reach : Nat) → List (Except ExcerptFailure ArticleExcerpt) → List (Except ExcerptFailure BundledExcerpt)
  | _, [] => []
  | reach, .error e :: more => .error e :: around body reach more
  | reach, .ok excerpt :: more =>
    let before := if reach ≤ excerpt.start then collapsed? body reach excerpt.start else none
    let last := more.all fun other => other.toOption.isNone
    let after := if last then collapsed? body excerpt.stop body.length else none
    .ok ⟨excerpt.content, before, after⟩ :: around body (max reach excerpt.stop) more

def ofRequests (body : String) (requests : List ExcerptRequest) : List (Except ExcerptFailure BundledExcerpt) :=
  around body 0 (requests.map (ArticleExcerpt.extract body))

end BundledExcerpt
end Syllabus
