import Syllabus.Markdown.Line
import Syllabus.Number.Literal

/-! Quotes and list items, which contain blocks. A line says at its start which of the open ones it
continues and which new ones it opens. -/
namespace Syllabus.Markdown

inductive Container where
  | quote
  | item (width : Nat)
  deriving DecidableEq, Repr

def afterQuoteSign? (p : LineStart) : Option LineStart :=
  match p.rest with
  | '>' :: _ => some ((p.advance 1).skip 1).2
  | _ => none

def Container.continued? (p : LineStart) : Container → Option LineStart
  | .quote => afterQuoteSign? (p.skip 3).2
  | .item width =>
    match p.skip width with
    | (missing, next) => if missing = 0 || next.atLineEnd then some next else none

def continued : List Container → LineStart → List Container × LineStart
  | [], p => ([], p)
  | container :: more, p =>
    match container.continued? p with
    | none => ([], p)
    | some next =>
      let (inner, last) := continued more next
      (container :: inner, last)

def afterContainers (containers : List Container) (s : List Char) : List Char :=
  (continued containers (.ofText s)).2.rest

def afterRule? (s : List Char) : Option (List Char) :=
  match s with
  | [] => none
  | c :: _ =>
    let line := s.takeWhile (!isLineEnd ·)
    if (c = '*' || c = '-' || c = '_') && line.all (fun d => d = c || d = ' ' || d = '\t') && 3 ≤ line.count c then
      afterLineEnd? (s.drop line.length)
    else none

structure ItemMark where
  length : Nat
  breaksIn : Bool
  deriving Repr

def itemMark? (s : List Char) : Option ItemMark :=
  match s with
  | [] => none
  | c :: _ =>
    if c = '-' || c = '+' || c = '*' then some ⟨1, true⟩
    else
      let digits := s.takeWhile Char.isDigit
      if digits.isEmpty || 9 < digits.length then none
      else match s.drop digits.length with
        | d :: _ =>
          if d = '.' || d = ')' then some ⟨digits.length + 1, Literal.natural? 10 digits = some 1⟩ else none
        | [] => none

def itemStart? (indent : Nat) (p : LineStart) : Option (Nat × LineStart) := do
  let mark ← itemMark? p.rest
  if (afterRule? p.rest).isSome then none
  let (missing, after) := (p.advance mark.length).skip 1
  if missing ≠ 0 && !after.atLineEnd then none
  let width := indent + mark.length + 1
  if (afterBlankLine? after.rest).isSome then some (width, after)
  else
    let (missing, content) := after.skip LineStart.codeIndent
    if missing = 0 then some (width, after)
    else some (width + (LineStart.codeIndent - missing), content)

structure Opening where
  containers : List Container
  empty : Bool
  place : LineStart
  deriving Repr

def opening : Nat → LineStart → Opening
  | 0, p => ⟨[], false, p⟩
  | n + 1, p =>
    let (missing, next) := p.skip LineStart.codeIndent
    if missing = 0 then ⟨[], false, p⟩
    else match itemStart? (LineStart.codeIndent - missing) next with
      | some (width, content) =>
        if (afterBlankLine? content.rest).isSome then ⟨[.item width], true, content⟩
        else
          let inner := opening n content
          { inner with containers := .item width :: inner.containers }
      | none =>
        match afterQuoteSign? next with
        | some content =>
          let inner := opening n content
          { inner with containers := .quote :: inner.containers }
        | none => ⟨[], false, p⟩

end Syllabus.Markdown
