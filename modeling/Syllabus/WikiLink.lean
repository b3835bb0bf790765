import Syllabus.Text.Basic

/-! Links between documents: `[[target]]`, with an optional anchor after a number sign and an
optional label after a bar. Whether the target exists is not asked here, but a target that climbs
out of its directory is refused. -/
namespace Syllabus

structure WikiLink where
  target : String
  anchor : Option String
  label : Option String
  deriving DecidableEq, Repr

inductive WikiLinkError where
  | missingBracket (text : String)
  | empty
  | pathTraversal (inner : String)
  deriving DecidableEq, Repr

def WikiLinkError.message : WikiLinkError → String
  | .missingBracket text => "Malformed wikilink '" ++ text ++ "': missing bracket (expected [[target]])"
  | .empty => "Empty wikilink: no target between the brackets"
  | .pathTraversal inner => "Path traversal is not allowed in wikilink target '" ++ inner ++ "'"

namespace WikiLink

def text (l : WikiLink) : String :=
  "[[" ++ l.target ++ l.anchor.elim "" (fun a => "#" ++ a) ++ l.label.elim "" (fun a => "|" ++ a) ++ "]]"

def inner? (s : List Char) : Option (List Char) :=
  (['[', '['].isPrefixOf? s).bind fun rest => ([']', ']'].isSuffixOf? rest).map Chars.trim

def isSeparator (c : Char) : Bool := c = '/' || c = '\\' || c = '|' || c = '#'

def traverses (s : List Char) : Bool :=
  Chars.contains "../".toList s || Chars.contains "..\\".toList s
    || (s.takeWhile fun c => !isSeparator c) == "..".toList

def part? (s : List Char) : Option String :=
  let trimmed := Chars.trim s
  if trimmed.isEmpty then none else some (.ofList trimmed)

def ofInner (s : List Char) : Except WikiLinkError WikiLink :=
  let (left, label) := match Chars.cut? ['|'] s with
    | some (left, label) => (Chars.trim left, part? label)
    | none => (s, none)
  let (target, anchor) := match Chars.cut? ['#'] left with
    | some (target, anchor) => (Chars.trim target, part? anchor)
    | none => (left, none)
  if target.isEmpty then .error .empty else .ok ⟨.ofList target, anchor, label⟩

def parse (s : String) : Except WikiLinkError WikiLink :=
  let trimmed := Chars.trim s.toList
  match inner? trimmed with
  | none => .error (.missingBracket (.ofList trimmed))
  | some inner =>
    if inner.isEmpty then .error .empty
    else if traverses inner then .error (.pathTraversal (.ofList inner))
    else ofInner inner

structure Span where
  start : Nat
  embed : Bool
  inner : List Char
  deriving DecidableEq, Repr

def Span.text (s : Span) : List Char := '[' :: '[' :: s.inner ++ [']', ']']

def spansFrom (offset : Nat) (before : Option Char) (s : List Char) : List Span :=
  match Chars.cut? ['[', '['] s with
  | none => []
  | some (skipped, opened) =>
    match Chars.cut? [']', ']'] opened with
    | none => []
    | some (inner, rest) =>
      let start := offset + skipped.length
      let last := skipped.getLast?.or before
      let span : Span := ⟨start, last == some '!', inner⟩
      if rest.length < s.length then span :: spansFrom (start + inner.length + 4) (some ']') rest
      else [span]
termination_by s.length

def spans (s : List Char) : List Span := spansFrom 0 none s

def find (s : String) : List String :=
  ((spans s.toList).filter fun span => !span.embed).map fun span => .ofList span.text

end WikiLink
end Syllabus
