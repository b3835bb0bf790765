import Syllabus.Markdown.Block
import Syllabus.Text.Punctuation

/-! The tokens of running text: signs that may mean something, and the text between them. A token knows
its place in the leaf and the text behind it. A backslash before punctuation is no part of any token;
neither are the blanks at the end of a line nor what the containers add to its start. -/
namespace Syllabus.Markdown
open Text (isBlank isAsciiPunctuation isPunctuation)

structure Flanks where
  opens : Bool
  closes : Bool
  deriving Repr

/-- A run can open before a character that is not blank, and close behind one. Next to punctuation it
needs a blank or punctuation on its other side, and an underscore needs that in any case. -/
def Flanks.ofContext (sign before after : Char) : Flanks :=
  let tight (near far : Char) : Bool :=
    !isBlank near && ((sign = '*' && !isPunctuation near) || isBlank far || isPunctuation far)
  ⟨tight after before, tight before after⟩

inductive Mark where
  | text
  | character (stands : List Char)
  | angle
  | openBracket (image : Bool)
  | closeBracket
  | ticks (escaped : Bool)
  | signs (flanks : Flanks)
  | lineEnd (escaped : Bool)
  deriving Repr

structure Token where
  mark : Mark
  place : Nat
  chars : List Char
  behind : List Char
  deriving Repr

namespace Token

def rest (t : Token) : List Char := t.chars ++ t.behind

def stop (t : Token) : Nat := t.place + t.chars.length

def isSpecial (c : Char) : Bool := isLineEnd c || "\\*_\x60<![]&".toList.contains c

def first (before : Char) (s : List Char) : Nat × Mark × List Char :=
  let run (c : Char) (s : List Char) : List Char := s.takeWhile (· == c)
  match s with
  | [] => (0, .text, [])
  | '\\' :: c :: rest =>
    if isLineEnd c then (0, .lineEnd true, '\\' :: (c :: rest).take (lineEndLength (c :: rest)))
    else if c = '\x60' then (1, .ticks true, run '\x60' (c :: rest))
    else if isAsciiPunctuation c then (1, .text, [c])
    else (0, .text, ['\\'])
  | '!' :: '[' :: _ => (0, .openBracket true, ['!', '['])
  | '<' :: '\\' :: _ => (0, .text, ['<'])
  | '&' :: rest =>
    match entity? rest with
    | some (stands, tail) => (0, .character stands, s.take (s.length - tail.length))
    | none => (0, .text, ['&'])
  | c :: rest =>
    if isLineEnd c then (0, .lineEnd false, s.take (lineEndLength s))
    else if c = '<' then (0, .angle, ['<'])
    else if c = '[' then (0, .openBracket false, ['['])
    else if c = ']' then (0, .closeBracket, [']'])
    else if c = '\x60' then (0, .ticks false, run c s)
    else if c = '*' || c = '_' then
      let signs := run c s
      let flanks := Flanks.ofContext c before ((s.drop signs.length).head?.getD ' ')
      (0, if flanks.opens || flanks.closes then .signs flanks else .text, signs)
    else if isSpecial c then (0, .text, [c])
    else
      let plain := c :: rest.takeWhile (!isSpecial ·)
      if (s.drop plain.length).head?.all isLineEnd then
        let kept := (plain.reverse.dropWhile isSpace).reverse
        if kept.isEmpty then (plain.length, .text, []) else (0, .text, kept)
      else (0, .text, plain)

def scan (containers : List Container) : Nat → (place : Nat) → (before : Char) → List Char → List Token
  | 0, _, _, _ => []
  | _, _, _, [] => []
  | n + 1, place, before, s =>
    let (passed, mark, chars) := first before s
    let token : Token := ⟨mark, place + passed, chars, s.drop (passed + chars.length)⟩
    match mark with
    | .lineEnd _ =>
      let inside := (continued containers (.ofText token.behind)).2.unindented
      token :: scan containers n (token.stop + (token.behind.length - inside.rest.length)) inside.before inside.rest
    | _ =>
      let more := scan containers n token.stop (chars.getLast?.getD before) token.behind
      if chars.isEmpty then more else token :: more

def stretched (tokens : List Token) : List Token :=
  match tokens.getLast? with
  | some ⟨.closeBracket, place, chars, behind⟩ =>
    let blanks := (behind.reverse.dropWhile (· == ' ')).reverse
    tokens.dropLast ++ [⟨.closeBracket, place, chars ++ blanks, behind.drop blanks.length⟩]
  | _ => tokens

def ofLeaf (leaf : Leaf) : List Token :=
  let tokens := scan leaf.containers leaf.text.length 0 leaf.before leaf.text
  if leaf.headline then stretched tokens
  else if leaf.underline.isEmpty then tokens
  else tokens.map fun t => { t with behind := t.behind ++ leaf.underline }

def since (place : Nat) (tokens : List Token) : List Token :=
  match tokens.dropWhile fun t => t.stop ≤ place with
  | [] => []
  | t :: more => { t with place := max t.place place, chars := t.chars.drop (place - t.place) } :: more

end Token
end Syllabus.Markdown
