import Syllabus.Number.Shortest

/-! The texts of YAML scalars: plain, quoted and block. Each reader takes the characters from the
scalar's first one on and gives its text with what follows. Line breaks fold: between two words a
single break is a space and further ones stand for themselves. -/
namespace Syllabus.Yaml

structure Position where
  line : Nat
  column : Nat
  octets : Nat
  deriving DecidableEq, Repr, Inhabited

namespace Position

def right (c : Char) (p : Position) : Position := ⟨p.line, p.column + 1, p.octets + c.utf8Size⟩

def past (s : List Char) (p : Position) : Position := s.foldl (fun p c => p.right c) p

def down (p : Position) : Position := ⟨p.line + 1, 0, 0⟩

end Position

def isSpace (c : Char) : Bool := c = ' ' || c = '\t'

def isBreak (c : Char) : Bool :=
  c = '\n' || c = '\r' || c = '\x85' || c = '\u2028' || c = '\u2029'

def atGap : List Char → Bool
  | [] => true
  | c :: _ => isSpace c || isBreak c

def atDocumentMark : List Char → Bool
  | '-' :: '-' :: '-' :: rest => atGap rest
  | '.' :: '.' :: '.' :: rest => atGap rest
  | _ => false

def breakText (c : Char) : Char := if c = '\u2028' || c = '\u2029' then c else '\n'

def break? : List Char → Option (Char × List Char)
  | '\r' :: '\n' :: rest => some ('\n', rest)
  | c :: rest => if isBreak c then some (breakText c, rest) else none
  | [] => none

structure Gap where
  blanks : List Char
  broken : Bool
  first : List Char
  more : List Char
  deriving DecidableEq, Repr, Inhabited

namespace Gap

def empty : Gap := ⟨[], false, [], []⟩

def blank (c : Char) (g : Gap) : Gap := if g.broken then g else { g with blanks := g.blanks ++ [c] }

def lineBreak (c : Char) (g : Gap) : Gap :=
  if g.broken then { g with more := g.more ++ [c] } else ⟨[], true, [c], []⟩

def isEmpty (g : Gap) : Bool := !g.broken && g.blanks.isEmpty

def text (g : Gap) : List Char :=
  if !g.broken then g.blanks
  else if g.first = ['\n'] then (if g.more.isEmpty then [' '] else g.more)
  else g.first ++ g.more

end Gap

structure Taken where
  text : List Char
  rest : List Char
  position : Position
  broken : Bool
  deriving Repr

def isFlowIndicator (c : Char) : Bool :=
  c = ',' || c = '[' || c = ']' || c = '\x7b' || c = '\x7d'

def plain (flow : Bool) (indent : Nat) :
    List Char → Position → Gap → (inWord : Bool) → List Char → Option Taken
  | [], p, gap, _, acc => some ⟨acc.reverse, [], p, gap.broken⟩
  | '\r' :: '\n' :: rest, p, gap, _, acc =>
    plain flow indent rest p.down (gap.lineBreak '\n') false acc
  | c :: rest, p, gap, inWord, acc =>
    let stop : Option Taken := some ⟨acc.reverse, c :: rest, p, gap.broken⟩
    if isSpace c then
      if gap.broken && p.column < indent && c = '\t' then none
      else plain flow indent rest (p.right c) (gap.blank c) false acc
    else if isBreak c then
      plain flow indent rest p.down (gap.lineBreak (breakText c)) false acc
    else if !inWord && !gap.isEmpty && !flow && p.column < indent then stop
    else if !inWord && p.column = 0 && atDocumentMark (c :: rest) then stop
    else if !inWord && c = '#' then stop
    else if flow && c = ':' && (match rest with | d :: _ => d = '?' || isFlowIndicator d | [] => false) then
      none
    else if (c = ':' && atGap rest) || (flow && isFlowIndicator c) then stop
    else plain flow indent rest (p.right c) Gap.empty true (c :: (gap.text.reverse ++ acc))

def hexValue? (c : Char) : Option Nat :=
  if '0' ≤ c && c ≤ '9' then some (c.toNat - 48)
  else if 'a' ≤ c && c ≤ 'f' then some (c.toNat - 87)
  else if 'A' ≤ c && c ≤ 'F' then some (c.toNat - 55)
  else none

def hexNumber? (digits : List Char) : Option Nat :=
  digits.foldlM (fun n c => (hexValue? c).map (16 * n + ·)) 0

def scalarValue? (code : Nat) : Option Char :=
  if code < 0xD800 ∨ (0xE000 ≤ code ∧ code < 0x110000) then some (Char.ofNat code) else none

def namedEscape? : Char → Option Char
  | '0' => some '\x00'
  | 'a' => some '\x07'
  | 'b' => some '\x08'
  | 't' => some '\t'
  | '\t' => some '\t'
  | 'n' => some '\n'
  | 'v' => some '\x0b'
  | 'f' => some '\x0c'
  | 'r' => some '\r'
  | 'e' => some '\x1b'
  | ' ' => some ' '
  | '"' => some '"'
  | '/' => some '/'
  | '\\' => some '\\'
  | 'N' => some '\x85'
  | '_' => some '\xa0'
  | 'L' => some '\u2028'
  | 'P' => some '\u2029'
  | _ => none

def escapeWidth? : Char → Option Nat
  | 'x' => some 2
  | 'u' => some 4
  | 'U' => some 8
  | _ => none

def escape? : List Char → Option (Char × Nat)
  | [] => none
  | c :: rest =>
    match escapeWidth? c with
    | some width =>
      let digits := rest.take width
      if digits.length = width then
        ((hexNumber? digits).bind scalarValue?).map fun d => (d, width + 1)
      else none
    | none => (namedEscape? c).map fun d => (d, 1)

def singleQuoted : List Char → Position → Gap → List Char → Option Taken
  | [], _, _, _ => none
  | '\'' :: '\'' :: rest, p, gap, acc =>
    singleQuoted rest (p.past ['\'', '\'']) Gap.empty ('\'' :: (gap.text.reverse ++ acc))
  | '\r' :: '\n' :: rest, p, gap, acc => singleQuoted rest p.down (gap.lineBreak '\n') acc
  | c :: rest, p, gap, acc =>
    if isSpace c then singleQuoted rest (p.right c) (gap.blank c) acc
    else if isBreak c then singleQuoted rest p.down (gap.lineBreak (breakText c)) acc
    else if p.column = 0 && atDocumentMark (c :: rest) then none
    else if c = '\'' then some ⟨(gap.text.reverse ++ acc).reverse, rest, p.right c, false⟩
    else singleQuoted rest (p.right c) Gap.empty (c :: (gap.text.reverse ++ acc))

def doubleQuoted : (skip : Nat) → List Char → Position → Gap → List Char → Option Taken
  | _, [], _, _, _ => none
  | skip + 1, c :: rest, p, gap, acc => doubleQuoted skip rest (p.right c) gap acc
  | 0, '\\' :: '\r' :: '\n' :: rest, p, gap, acc =>
    doubleQuoted 0 rest p.down ⟨[], true, [], []⟩ (gap.text.reverse ++ acc)
  | 0, '\r' :: '\n' :: rest, p, gap, acc => doubleQuoted 0 rest p.down (gap.lineBreak '\n') acc
  | 0, c :: rest, p, gap, acc =>
    if isSpace c then doubleQuoted 0 rest (p.right c) (gap.blank c) acc
    else if isBreak c then doubleQuoted 0 rest p.down (gap.lineBreak (breakText c)) acc
    else if p.column = 0 && atDocumentMark (c :: rest) then none
    else
      let before := gap.text.reverse ++ acc
      if c = '"' then some ⟨before.reverse, rest, p.right c, false⟩
      else if c = '\\' then
        match rest with
        | d :: more =>
          if isBreak d then doubleQuoted 0 more p.down ⟨[], true, [], []⟩ before
          else match escape? (d :: more) with
            | some (e, width) => doubleQuoted (width - 1) more (p.past [c, d]) Gap.empty (e :: before)
            | none => none
        | [] => none
      else doubleQuoted 0 rest (p.right c) Gap.empty (c :: before)

structure BlockHeader where
  keep : Option Bool
  indent : Option Nat
  deriving DecidableEq, Repr

def chomping? (c : Char) : Option Bool :=
  if c = '+' then some true else if c = '-' then some false else none

def blockHeader? (s : List Char) : Option (BlockHeader × List Char) :=
  let digit? (c : Char) : Option Nat := if c.isDigit then some (c.toNat - 48) else none
  let checked (h : BlockHeader) (rest : List Char) := if h.indent = some 0 then none else some (h, rest)
  match s with
  | [] => some (⟨none, none⟩, [])
  | c :: rest =>
    match chomping? c, digit? c with
    | some keep, _ =>
      match rest with
      | d :: more =>
        match digit? d with
        | some n => checked ⟨some keep, some n⟩ more
        | none => some (⟨some keep, none⟩, rest)
      | [] => some (⟨some keep, none⟩, [])
    | none, some n =>
      match rest with
      | d :: more =>
        match chomping? d with
        | some keep => checked ⟨some keep, some n⟩ more
        | none => checked ⟨none, some n⟩ rest
      | [] => checked ⟨none, some n⟩ []
    | none, none => some (⟨none, none⟩, s)

structure Breaks where
  text : List Char
  rest : List Char
  position : Position
  deepest : Nat
  deriving Repr

def blockBreaks (indent : Option Nat) :
    List Char → Position → List Char → (deepest : Nat) → Option Breaks
  | [], p, acc, deepest => some ⟨acc, [], p, max deepest p.column⟩
  | '\r' :: '\n' :: rest, p, acc, deepest =>
    blockBreaks indent rest p.down (acc ++ ['\n']) (max deepest p.column)
  | c :: rest, p, acc, deepest =>
    let inside := match indent with
      | some n => p.column < n
      | none => true
    if c = ' ' && inside then blockBreaks indent rest (p.right c) acc deepest
    else if c = '\t' && inside then none
    else if isBreak c then
      blockBreaks indent rest p.down (acc ++ [breakText c]) (max deepest p.column)
    else some ⟨acc, c :: rest, p, max deepest p.column⟩

structure BlockState where
  text : List Char
  leading : List Char
  trailing : List Char
  leadingBlank : Bool
  rest : List Char
  position : Position
  deriving Repr

def BlockState.line (folded : Bool) (indent : Nat) (s : BlockState) : Option BlockState := do
  let blank := match s.rest with
    | c :: _ => isSpace c
    | [] => false
  let joined :=
    if folded && s.leading = ['\n'] && !s.leadingBlank && !blank then
      s.text ++ (if s.trailing.isEmpty then [' '] else [])
    else s.text ++ s.leading
  let content := s.rest.takeWhile fun c => !isBreak c
  let after := s.rest.drop content.length
  let here := s.position.past content
  let (leading, rest, here) := match break? after with
    | some (c, rest) => ([c], rest, here.down)
    | none => ([], after, here)
  let breaks ← blockBreaks (some indent) rest here [] 0
  some ⟨joined ++ s.trailing ++ content, leading, breaks.text, blank, breaks.rest, breaks.position⟩

def blockLines (folded : Bool) (indent : Nat) (s : BlockState) : Option BlockState :=
  if s.position.column = indent ∧ !s.rest.isEmpty then
    match s.line folded indent with
    | none => none
    | some t => if t.rest.length < s.rest.length then blockLines folded indent t else some t
  else some s
termination_by s.rest.length

def block (folded : Bool) (outer : Int) (s : List Char) (p : Position) : Option Taken := do
  let (header, afterHeader) ← blockHeader? s
  let afterBlanks := afterHeader.dropWhile isSpace
  let afterComment := match afterBlanks with
    | '#' :: _ => afterBlanks.dropWhile fun c => !isBreak c
    | _ => afterBlanks
  let here := p.past (s.take (s.length - afterComment.length))
  let (rest, here) ← match break? afterComment with
    | some (_, rest) => some (rest, here.down)
    | none => if afterComment.isEmpty then some ([], here) else none
  let known := header.indent.map fun n => if 0 ≤ outer then outer.toNat + n else n
  let breaks ← blockBreaks known rest here [] 0
  let indent := known.getD (max (max breaks.deepest (outer + 1).toNat) 1)
  let last ← blockLines folded indent ⟨[], [], breaks.text, false, breaks.rest, breaks.position⟩
  let ending := match header.keep with
    | some true => last.leading ++ last.trailing
    | some false => []
    | none => last.leading
  some ⟨last.text ++ ending, last.rest, last.position, true⟩

end Syllabus.Yaml
