import Syllabus.Markdown.Container
import Syllabus.Markdown.LinkParts
import Syllabus.Markdown.Tag

/-! The blocks of a Markdown text, read from its start to its end. Paragraphs and headings hold running
text; code and raw HTML hold none. What is kept is the running text, each with the place it starts at,
and the definitions of link labels. Code and raw HTML go from one line feed to the next: a lone
carriage return is part of their lines. -/
namespace Syllabus.Markdown

structure Leaf where
  start : List Char
  before : Char
  containers : List Container
  headline : Bool
  text : List Char
  underline : List Char
  deriving Repr

def fence? (s : List Char) : Option (Char × Nat) :=
  match s with
  | [] => none
  | c :: _ =>
    let signs := s.takeWhile (· == c)
    let info := (s.drop signs.length).takeWhile (· != '\n')
    if 3 ≤ signs.length && (c = '~' || (c = '\x60' && !info.contains '\x60')) then some (c, signs.length)
    else none

def afterClosingFence? (sign : Char) (length : Nat) (s : List Char) : Option (List Char) :=
  if s.isEmpty then some []
  else
    let signs := s.takeWhile (· == sign)
    let rest := (s.drop signs.length).dropWhile (· == ' ')
    if length ≤ signs.length then afterLineEnd? rest else none

def headingText? (s : List Char) : Option (List Char) :=
  let signs := s.takeWhile (· == '#')
  let rest := s.drop signs.length
  if signs.isEmpty || 6 < signs.length || !(rest.head?.all fun c => isSpace c || isLineEnd c) then none
  else some (skipSpaces rest)

def afterUnderline? (s : List Char) : Option (List Char) :=
  match s with
  | c :: _ => if c = '=' || c = '-' then afterBlankLine? (s.dropWhile (· == c)) else none
  | [] => none

def rawStart? (inParagraph : Bool) (s : List Char) : Option (Option String) :=
  match s with
  | '<' :: inside =>
    match rawBlockEnd? inside with
    | some stop => some (some stop)
    | none => if startsBlockTag inside || (!inParagraph && isLoneTag inside) then some none else none
  | _ => none

def itemBreaksIn (inside : Bool) (s : List Char) : Bool :=
  match itemMark? s with
  | none => false
  | some mark =>
    let rest := s.drop mark.length
    rest.head?.all (fun c => c = ' ' || c = '\t' || isLineEnd c)
      && (!inside || (mark.breaksIn && (afterBlankLine? rest).isNone))

def interrupts (inside : Bool) (s : List Char) : Bool :=
  s.head?.all isLineEnd || (afterRule? s).isSome || (headingText? s).isSome || (fence? s).isSome
    || s.head? = some '>' || itemBreaksIn inside s || (rawStart? true s).isSome

structure LineBelow where
  inside : Bool
  indented : Bool
  text : List Char
  before : Char
  deriving Repr

namespace LineBelow

def ofText (containers : List Container) (s : List Char) : LineBelow :=
  let (kept, place) := continued containers (.ofText s)
  let (missing, next) := place.skip LineStart.codeIndent
  ⟨kept.length = containers.length, missing = 0, next.rest, next.before⟩

def startsBlock (line : LineBelow) : Bool := !line.indented && interrupts line.inside line.text

def goesOn (line : LineBelow) : Bool :=
  !(unindented line.text).head?.all isLineEnd && !line.startsBlock

def underline? (line : LineBelow) : Option (List Char) :=
  if line.indented then none else afterUnderline? line.text

def underlines? (line : LineBelow) : Option (List Char) :=
  if line.inside then line.underline? else none

end LineBelow

def labelGoesOn? (containers : List Container) : Continuation := fun s =>
  let line := LineBelow.ofText containers s
  if line.underlines?.isSome || line.startsBlock then none else some line.text

def partGoesOn? (containers : List Container) : Continuation := fun s =>
  let line := LineBelow.ofText containers s
  if line.underline?.isSome || line.startsBlock then none else some line.text

def titleGoesOn? (containers : List Container) : Continuation := fun s =>
  (labelGoesOn? containers s).filter fun text => (afterBlankLine? text).isNone

def definitionAt? (containers : List Container) : List Char → Option (Definition × List Char) :=
  definition? (labelGoesOn? containers) (partGoesOn? containers) (titleGoesOn? containers)

def afterLines (inside? : List Char → List Char → Option (List Char)) : Nat → List Char → List Char
  | 0, s => s
  | n + 1, s =>
    let next := afterLineFeed s
    match inside? s next with
    | none => next
    | some rest => if rest.isEmpty then next else afterLines inside? n rest

def inside? (containers : List Container) (s : List Char) : Option LineStart :=
  let (kept, place) := continued containers (.ofText s)
  if kept.length = containers.length then some place else none

def codeGoesOn? (containers : List Container) (_ next : List Char) : Option (List Char) := do
  let place ← inside? containers next
  let (missing, rest) := place.skip LineStart.codeIndent
  if missing = 0 || rest.atLineEnd then some rest.rest else none

def rawGoesOn? (containers : List Container) (stop : Option String) (line next : List Char) :
    Option (List Char) := do
  let place ← inside? containers next
  match stop with
  | some text => if Chars.contains text.toList (line.takeWhile (· != '\n')) then none else some place.rest
  | none => if (afterBlankLine? place.rest).isSome then none else some place.rest

def afterFenced (containers : List Container) (indent : Nat) (sign : Char) (length : Nat) :
    Nat → List Char → List Char
  | 0, s => s
  | n + 1, s =>
    match inside? containers s with
    | none => s
    | some place =>
      let (_, content) := place.skip indent
      let (missing, closing) := content.skip (LineStart.codeIndent - indent)
      match if missing = 0 then none else afterClosingFence? sign length closing.rest with
      | some rest => rest
      | none => afterFenced containers indent sign length n (afterLineFeed content.rest)

def lineOf (s : List Char) : List Char := s.takeWhile (!isLineEnd ·)

def paragraph (containers : List Container) : Nat → List Char → List Char × List Char × List Char
  | 0, s => ([], [], s)
  | n + 1, s =>
    let line := lineOf s
    let next := s.drop line.length
    let rest := next.drop (lineEndLength next)
    let belowIt := LineBelow.ofText containers rest
    match belowIt.underlines? with
    | some left => (line, next.take (next.length - left.length), left)
    | none =>
      if belowIt.goesOn then
        let (text, underline, left) := paragraph containers n rest
        (line ++ next.take (lineEndLength next) ++ text, underline, left)
      else (line, [], rest)

def definitions (containers : List Container) :
    Nat → (before : Char) → List Char → List Definition × List Char × Option Char
  | 0, before, s => ([], s, some before)
  | n + 1, before, s =>
    match definitionAt? containers s with
    | none => ([], s, some before)
    | some (found, after) =>
      let next := (afterBlankLine? after).getD after
      let line := LineBelow.ofText containers next
      if line.goesOn then
        let text := unindented line.text
        let before := if text.length = line.text.length then line.before else ' '
        let (more, left) := definitions containers n before text
        (found :: more, left)
      else ([found], next, none)

structure Blocks where
  leaves : List Leaf
  definitions : List Definition
  deriving Repr

namespace Blocks

def block (count : Nat) (containers : List Container) (place : LineStart) : Blocks × List Char :=
  let (missing, next) := place.skip LineStart.codeIndent
  let s := next.rest
  if missing = 0 then (⟨[], []⟩, afterLines (codeGoesOn? containers) count s)
  else match rawStart? false s with
    | some stop => (⟨[], []⟩, afterLines (rawGoesOn? containers stop) count s)
    | none =>
      match afterRule? s with
      | some rest => (⟨[], []⟩, rest)
      | none =>
        match headingText? s with
        | some text =>
          let line := lineOf text
          let rest := text.drop line.length
          (⟨[⟨text, ' ', containers, true, line, []⟩], []⟩, rest.drop (lineEndLength rest))
        | none =>
          match fence? s with
          | some (sign, length) =>
            (⟨[], []⟩, afterFenced containers (LineStart.codeIndent - missing) sign length count (afterLineFeed s))
          | none =>
            let (found, left, more) := Markdown.definitions containers count next.before s
            match more with
            | some before =>
              let (text, underline, rest) := paragraph containers count left
              (⟨[⟨left, before, containers, false, text, underline⟩], found⟩, rest)
            | none => (⟨[], found⟩, left)

/-- The blocks from a line on, in the containers that are open before it. An item with nothing behind
its marker is closed by a blank line. Every line leaves less text than there was; the count is more than its length. -/
def fromLine : Nat → (containers : List Container) → (fresh : Bool) → List Char → Blocks
  | 0, _, _, _ => ⟨[], []⟩
  | _, _, _, [] => ⟨[], []⟩
  | n + 1, containers, fresh, s =>
    let (kept, place) := continued containers (.ofText s)
    let opened := opening n place
    match afterBlankLine? opened.place.rest with
    | some rest =>
      let closes := fresh && kept.length = containers.length && opened.containers.isEmpty
      fromLine n (if closes then kept.dropLast else kept ++ opened.containers) opened.empty rest
    | none =>
      let inner := kept ++ opened.containers
      let (first, rest) := block n inner opened.place
      let more := fromLine n inner false rest
      ⟨first.leaves ++ more.leaves, first.definitions ++ more.definitions⟩

def ofText (s : List Char) : Blocks := fromLine (s.length + 1) [] false s

end Blocks
end Syllabus.Markdown
