import Syllabus.Yaml.Scalar
import Syllabus.Yaml.Tag

/-! YAML text as tokens. Indentation becomes explicit: where a line is indented deeper a block
starts, and where it is not the blocks it leaves are ended. A mapping key is only known by the
colon after it, so the place where a key may have begun is remembered for each open flow
collection, and the key's mark is put in there once its colon is met. No value is an error. -/
namespace Syllabus.Yaml

inductive Token where
  | version (major minor : Nat)
  | tagDirective (handle : String) (stem : Octets)
  | documentStart | documentEnd
  | blockSequence | blockMapping | blockEnd
  | flowSequence | flowSequenceEnd | flowMapping | flowMappingEnd
  | blockEntry | flowEntry | key | value
  | alias (name : String)
  | anchor (name : String)
  | tag (handle : String) (suffix : Octets)
  | scalar (text : String) (plain : Bool)
  deriving DecidableEq, Repr

structure KeyStart where
  tokens : Nat
  required : Bool
  position : Position
  deriving DecidableEq, Repr

structure Scan where
  rest : List Char
  position : Position
  tokens : Array Token
  indent : Int
  outer : List Int
  keyAllowed : Bool
  keyStart : Option KeyStart
  flow : List (Option KeyStart)
  ended : Bool
  deriving Repr

namespace Scan

def start (s : List Char) : Scan := ⟨s, ⟨0, 0, 0⟩, #[], -1, [], true, none, [], false⟩

def inFlow (s : Scan) : Bool := !s.flow.isEmpty

def push (token : Token) (s : Scan) : Scan := { s with tokens := s.tokens.push token }

def pass (n : Nat) (s : Scan) : Scan :=
  { s with rest := s.rest.drop n, position := s.position.past (s.rest.take n) }

def gapEnd (flow : Bool) : (keyAllowed : Bool) → (comment : Bool) → List Char → Position →
    Bool × List Char × Position
  | allowed, _, [], p => (allowed, [], p)
  | allowed, _, '\r' :: '\n' :: rest, p => gapEnd flow (allowed || !flow) false rest p.down
  | allowed, comment, c :: rest, p =>
    if isBreak c then gapEnd flow (allowed || !flow) false rest p.down
    else if comment || c = ' ' || (c = '\t' && (flow || !allowed)) || (c = '\uFEFF' && p.column = 0) then
      gapEnd flow allowed comment rest (p.right c)
    else if c = '#' then gapEnd flow allowed true rest (p.right c)
    else (allowed, c :: rest, p)

def skipGap (s : Scan) : Scan :=
  let (allowed, rest, p) := gapEnd s.inFlow s.keyAllowed false s.rest s.position
  { s with rest := rest, position := p, keyAllowed := allowed }

def unroll (column : Int) : Int → List Int → Array Token → Int × List Int × Array Token
  | indent, [], tokens => (indent, [], tokens)
  | indent, next :: outer, tokens =>
    if column < indent then unroll column next outer (tokens.push .blockEnd)
    else (indent, next :: outer, tokens)

def endBlocks (column : Int) (s : Scan) : Scan :=
  if s.inFlow then s
  else
    let (indent, outer, tokens) := unroll column s.indent s.outer s.tokens
    { s with indent := indent, outer := outer, tokens := tokens }

def insertToken (tokens : Array Token) (n : Nat) (token : Token) : Array Token :=
  (tokens.extract 0 n).push token ++ tokens.extract n tokens.size

def openBlock (column : Nat) (n : Nat) (token : Token) (s : Scan) : Scan :=
  if !s.inFlow && s.indent < column then
    { s with indent := column, outer := s.indent :: s.outer, tokens := insertToken s.tokens n token }
  else s

def dropKey (s : Scan) : Option Scan :=
  match s.keyStart with
  | some k => if k.required then none else some { s with keyStart := none }
  | none => some s

def saveKey (s : Scan) : Option Scan :=
  if s.keyAllowed then do
    let required := !s.inFlow && s.indent = s.position.column
    let t ← s.dropKey
    some { t with keyStart := some ⟨s.tokens.size, required, s.position⟩ }
  else some s

def allowKey (allowed : Bool) (s : Scan) : Scan := { s with keyAllowed := allowed }

def keyLimit : Nat := 1024

def current (s : Scan) (k : KeyStart) : Bool :=
  k.position.line == s.position.line && s.position.octets ≤ k.position.octets + keyLimit

def isNameChar (c : Char) : Bool := c.isAlphanum || c = '_' || c = '-'

def documentMark (token : Token) (s : Scan) : Option Scan := do
  let t ← (s.endBlocks (-1)).dropKey
  some ((t.pass 3).push token |>.allowKey false)

def finish (s : Scan) : Option Scan := do
  let t ← ((s.endBlocks (-1))).dropKey
  some { t with ended := true, keyAllowed := false }

def openFlow (token : Token) (s : Scan) : Option Scan := do
  let t ← s.saveKey
  some { (t.pass 1).push token with flow := t.keyStart :: t.flow, keyStart := none, keyAllowed := true }

def closeFlow (token : Token) (s : Scan) : Option Scan := do
  let t ← s.dropKey
  let u := (t.pass 1).push token |>.allowKey false
  match u.flow with
  | outer :: flow => some { u with flow := flow, keyStart := outer }
  | [] => some u

def flowEntry (s : Scan) : Option Scan := do
  let t ← s.dropKey
  some ((t.pass 1).push .flowEntry |>.allowKey true)

def blockEntry (s : Scan) : Option Scan := do
  if !s.inFlow && !s.keyAllowed then none
  let t ← (s.openBlock s.position.column s.tokens.size .blockSequence).dropKey
  some ((t.pass 1).push .blockEntry |>.allowKey true)

def explicitKey (s : Scan) : Option Scan := do
  if !s.inFlow && !s.keyAllowed then none
  let t ← (s.openBlock s.position.column s.tokens.size .blockMapping).dropKey
  some ((t.pass 1).push .key |>.allowKey !s.inFlow)

def valueMark (s : Scan) : Option Scan :=
  let free (s : Scan) : Option Scan :=
    if !s.inFlow && !s.keyAllowed then none
    else
      let t := s.openBlock s.position.column s.tokens.size .blockMapping
      some ((t.pass 1).push .value |>.allowKey !s.inFlow)
  match s.keyStart with
  | none => free s
  | some k =>
    if s.current k then
      let t := { s with tokens := insertToken s.tokens k.tokens .key, keyStart := none }
      let t := t.openBlock k.position.column k.tokens .blockMapping
      some ((t.pass 1).push .value |>.allowKey false)
    else if k.required then none
    else free { s with keyStart := none }

def name? (s : Scan) : Option (String × Scan) :=
  let name := (s.rest.drop 1).takeWhile isNameChar
  let t := s.pass (name.length + 1)
  let closed := atGap t.rest || (t.rest.head?.any fun c => "?:,]%@\x60".toList.contains c || c = '\x7d')
  if name.isEmpty || !closed then none else some (.ofList name, t)

def named (make : String → Token) (s : Scan) : Option Scan := do
  let (name, t) ← (← s.saveKey).name?
  some (t.push (make name) |>.allowKey false)

def isUriChar (verbatim : Bool) (c : Char) : Bool :=
  isNameChar c || ";/?:@&=+$.%!~*()".toList.contains c || c = '\'' ||
    (verbatim && (c = ',' || c = '[' || c = ']'))

def octetsAfter? (octet : Nat) : Option Nat :=
  if octet < 0x80 then some 0
  else if octet < 0xC0 then none
  else if octet < 0xE0 then some 1
  else if octet < 0xF0 then some 2
  else if octet < 0xF8 then some 3
  else none

def unescapeUri (missing : Nat) : List Char → Option Octets
  | [] => if missing = 0 then some [] else none
  | '%' :: a :: b :: rest => do
    let octet ← hexNumber? [a, b]
    let missing ← match missing with
      | 0 => octetsAfter? octet
      | left + 1 => if 0x80 ≤ octet ∧ octet < 0xC0 then some left else none
    (unescapeUri missing rest).map (UInt8.ofNat octet :: ·)
  | c :: rest => if c = '%' || missing ≠ 0 then none else (unescapeUri 0 rest).map (UInt8.ofNat c.toNat :: ·)

def tag? (s : List Char) : Option (List Char × Octets × Nat) :=
  match s with
  | '!' :: '<' :: rest => do
    let uri := rest.takeWhile (isUriChar true)
    let suffix ← unescapeUri 0 uri
    if uri.isEmpty || (rest.drop uri.length).head? != some '>' then none
    some ([], untilZero suffix, uri.length + 3)
  | '!' :: rest =>
    let name := rest.takeWhile isNameChar
    let after := rest.drop name.length
    match after with
    | '!' :: tail => do
      let uri := tail.takeWhile (isUriChar false)
      let suffix ← unescapeUri 0 uri
      if uri.isEmpty then none
      some ('!' :: name ++ ['!'], untilZero suffix, name.length + 2 + uri.length)
    | _ => do
      let uri := after.takeWhile (isUriChar false)
      let suffix ← unescapeUri 0 uri
      let suffix := untilZero (octetsOf name ++ suffix)
      let length := name.length + 1 + uri.length
      if suffix.isEmpty then some ([], octetsOf ['!'], length) else some (['!'], suffix, length)
  | _ => none

def tagged (s : Scan) : Option Scan := do
  let t ← s.saveKey
  let (handle, suffix, length) ← tag? t.rest
  let u := t.pass length
  if atGap u.rest || (u.inFlow && u.rest.head? == some ',') then
    some (u.push (.tag (.ofList handle) suffix) |>.allowKey false)
  else none

def take (plain : Bool) (taken : Taken) (s : Scan) : Scan :=
  { s with rest := taken.rest, position := taken.position }.push (.scalar (.ofList taken.text) plain)

def blockScalar (folded : Bool) (s : Scan) : Option Scan := do
  let t ← s.dropKey
  let t := t.pass 1
  let taken ← block folded t.indent t.rest t.position
  some (t.take false taken |>.allowKey true)

def quoted (read : List Char → Position → Gap → List Char → Option Taken) (s : Scan) : Option Scan := do
  let t ← s.saveKey
  let t := t.pass 1
  let taken ← read t.rest t.position Gap.empty []
  some (t.take false taken |>.allowKey false)

def plainScalar (s : Scan) : Option Scan := do
  let t ← s.saveKey
  let taken ← plain t.inFlow (t.indent + 1).toNat t.rest t.position Gap.empty false []
  some (t.take true taken |>.allowKey taken.broken)

def directiveEnd (s : Scan) : Option Scan :=
  let t := s.pass (s.rest.takeWhile isSpace).length
  let t := if t.rest.head? == some '#' then t.pass (t.rest.takeWhile fun c => !isBreak c).length else t
  match break? t.rest with
  | some (_, rest) => some { t with rest := rest, position := t.position.down }
  | none => if t.rest.isEmpty then some t else none

def decimal? (s : List Char) : Option (Nat × Nat) :=
  let digits := s.takeWhile Char.isDigit
  if digits.isEmpty || 9 < digits.length then none
  else some (digits.foldl (fun n c => 10 * n + (c.toNat - 48)) 0, digits.length)

def directive (s : Scan) : Option Scan := do
  let s ← (s.endBlocks (-1)).dropKey
  let s := s.allowKey false |>.pass 1
  let name := s.rest.takeWhile isNameChar
  let s := s.pass name.length
  if !atGap s.rest then none
  let s := s.pass (s.rest.takeWhile isSpace).length
  if name = "YAML".toList then
    let (major, width) ← decimal? s.rest
    let s := s.pass width
    if s.rest.head? != some '.' then none
    let s := s.pass 1
    let (minor, width) ← decimal? s.rest
    (s.pass width |>.push (.version major minor)).directiveEnd
  else if name = "TAG".toList then
    if s.rest.head? != some '!' then none
    let word := (s.rest.drop 1).takeWhile isNameChar
    let s := s.pass (word.length + 1)
    let closed := s.rest.head? == some '!'
    if !closed && !word.isEmpty then none
    let s := if closed then s.pass 1 else s
    let blanks := s.rest.takeWhile isSpace
    if blanks.isEmpty then none
    let s := s.pass blanks.length
    let uri := s.rest.takeWhile (isUriChar true)
    let stem ← unescapeUri 0 uri
    let s := s.pass uri.length
    if uri.isEmpty || !atGap s.rest then none
    let handle := '!' :: word ++ (if closed then ['!'] else [])
    (s.push (.tagDirective (.ofList handle) (untilZero stem))).directiveEnd
  else none

def startsPlain (flow : Bool) (c : Char) (rest : List Char) : Bool :=
  if "-?:".toList.contains c then
    if c = '-' then !(rest.head?.any isSpace) else !flow && !atGap rest
  else !isSpace c && !(",[]#&*!|>\x27\"%@\x60".toList.contains c || c = '\x7b' || c = '\x7d')

def step (s : Scan) : Option Scan :=
  let s := s.skipGap
  let s := s.endBlocks s.position.column
  match s.rest with
  | [] => s.finish
  | c :: rest =>
    if s.position.column = 0 && c = '%' then s.directive
    else if s.position.column = 0 && atDocumentMark s.rest then
      s.documentMark (if c = '-' then .documentStart else .documentEnd)
    else match c with
      | '[' => s.openFlow .flowSequence
      | '\x7b' => s.openFlow .flowMapping
      | ']' => s.closeFlow .flowSequenceEnd
      | '\x7d' => s.closeFlow .flowMappingEnd
      | ',' => s.flowEntry
      | '*' => s.named .alias
      | '&' => s.named .anchor
      | '!' => s.tagged
      | '\'' => s.quoted singleQuoted
      | '"' => s.quoted (doubleQuoted 0)
      | _ =>
        if c = '-' && atGap rest then s.blockEntry
        else if c = '?' && (s.inFlow || atGap rest) then s.explicitKey
        else if c = ':' && (s.inFlow || atGap rest) then s.valueMark
        else if (c = '|' || c = '>') && !s.inFlow then s.blockScalar (c = '>')
        else if startsPlain s.inFlow c rest then s.plainScalar
        else none

def run (s : Scan) : Option Scan :=
  match s.step with
  | none => none
  | some t =>
    if t.ended then some t
    else if t.rest.length < s.rest.length then run t
    else none
termination_by s.rest.length

end Scan

def isPrintable (c : Char) : Bool :=
  c = '\t' || c = '\n' || c = '\r' || (' ' ≤ c && c ≤ '~') || c = '\x85'
    || ('\xa0' ≤ c && c ≤ '\uFFFD') || 0x10000 ≤ c.toNat

def tokens? (s : List Char) : Option (List Token) :=
  if s.all isPrintable then (Scan.start s).run.map fun t => t.tokens.toList else none

end Syllabus.Yaml
