import Syllabus.Number.Literal
import Syllabus.Toml.Value

/-! Reading TOML 1.1. A reader takes the text from its place on and gives what it read with the
rest; no result is an error. Lines are expressions: a pair, a header, a comment or nothing. -/
namespace Syllabus.Toml

abbrev Read (α : Type) := List Char → Option (α × List Char)

def isSpace (c : Char) : Bool := c = ' ' || c = '\t'

def skipSpace (s : List Char) : List Char := s.dropWhile isSpace

def isControl (c : Char) : Bool := (c.toNat < 0x20 && c ≠ '\t') || c = '\x7f'

def newline? : List Char → Option (List Char)
  | '\n' :: rest => some rest
  | '\r' :: '\n' :: rest => some rest
  | _ => none

def afterComment (s : List Char) : List Char :=
  match s with
  | '#' :: rest => rest.dropWhile fun c => !isControl c
  | _ => s

def skipGap (s : List Char) : List Char :=
  let t := afterComment (skipSpace s)
  match newline? t with
  | some rest => if rest.length < s.length then skipGap rest else t
  | none => t
termination_by s.length

def isBareKey (c : Char) : Bool := c.isAlphanum || c = '_' || c = '-'

def codePoint? (digits : List Char) (width : Nat) : Option Char :=
  if digits.length = width then
    match Literal.natural? 16 digits with
    | some code =>
      if code < 0xD800 ∨ (0xE000 ≤ code ∧ code < 0x110000) then some (Char.ofNat code) else none
    | none => none
  else none

def escape? : List Char → Option (Char × List Char)
  | 'b' :: rest => some ('\x08', rest)
  | 't' :: rest => some ('\t', rest)
  | 'n' :: rest => some ('\n', rest)
  | 'f' :: rest => some ('\x0c', rest)
  | 'r' :: rest => some ('\r', rest)
  | 'e' :: rest => some ('\x1b', rest)
  | '"' :: rest => some ('"', rest)
  | '\\' :: rest => some ('\\', rest)
  | 'x' :: rest => (codePoint? (rest.take 2) 2).map fun c => (c, rest.drop 2)
  | 'u' :: rest => (codePoint? (rest.take 4) 4).map fun c => (c, rest.drop 4)
  | 'U' :: rest => (codePoint? (rest.take 8) 8).map fun c => (c, rest.drop 8)
  | _ => none

def basic (s : List Char) (acc : List Char) : Option (List Char × List Char) :=
  match s with
  | [] => none
  | '"' :: rest => some (acc.reverse, rest)
  | '\\' :: rest =>
    match escape? rest with
    | some (c, more) => if more.length < rest.length + 1 then basic more (c :: acc) else none
    | none => none
  | c :: rest => if isControl c then none else basic rest (c :: acc)
termination_by s.length

def literal (s : List Char) : Option (List Char × List Char) :=
  let text := s.takeWhile fun c => c ≠ '\'' && !isControl c
  match s.drop text.length with
  | '\'' :: rest => some (text, rest)
  | _ => none

def closing? (quote : Char) (s : List Char) : Option (List Char × List Char) :=
  let quotes := s.takeWhile (· == quote)
  if quotes.length < 3 then none
  else
    let inner := min (quotes.length - 3) 2
    some (List.replicate inner quote, s.drop (inner + 3))

def skipBlankLines (s : List Char) : List Char :=
  match newline? (skipSpace s) with
  | some rest => if rest.length < s.length then skipBlankLines rest else rest
  | none => skipSpace s
termination_by s.length

def joined? (s : List Char) : Option (List Char) := (newline? (skipSpace s)).map skipBlankLines

def lineChar? : List Char → Option (Char × List Char)
  | '\n' :: rest => some ('\n', rest)
  | '\r' :: '\n' :: rest => some ('\r', '\n' :: rest)
  | c :: rest => if isControl c then none else some (c, rest)
  | [] => none

def multiBasic (s : List Char) (acc : List Char) : Option (List Char × List Char) :=
  match closing? '"' s with
  | some (quotes, rest) => some (acc.reverse ++ quotes, rest)
  | none =>
    match s with
    | [] => none
    | '\\' :: rest =>
      match joined? rest with
      | some more => if more.length < rest.length + 1 then multiBasic more acc else none
      | none =>
        match escape? rest with
        | some (c, more) => if more.length < rest.length + 1 then multiBasic more (c :: acc) else none
        | none => none
    | first :: more =>
      match lineChar? (first :: more) with
      | some (c, rest) => if rest.length < more.length + 1 then multiBasic rest (c :: acc) else none
      | none => none
termination_by s.length

def multiLiteral (s : List Char) (acc : List Char) : Option (List Char × List Char) :=
  match closing? '\'' s with
  | some (quotes, rest) => some (acc.reverse ++ quotes, rest)
  | none =>
    match lineChar? s with
    | some (c, rest) => if rest.length < s.length then multiLiteral rest (c :: acc) else none
    | none => none
termination_by s.length

def afterOpening (s : List Char) : List Char := (newline? s).getD s

def string? : Read String := fun s =>
  (match s with
  | '"' :: '"' :: '"' :: rest => multiBasic (afterOpening rest) []
  | '"' :: rest => basic rest []
  | '\'' :: '\'' :: '\'' :: rest => multiLiteral (afterOpening rest) []
  | '\'' :: rest => literal rest
  | _ => none).map fun (chars, rest) => (.ofList chars, rest)

def simpleKey? : Read String := fun s =>
  match s with
  | '"' :: rest => (basic rest []).map fun (chars, rest) => (.ofList chars, rest)
  | '\'' :: rest => (literal rest).map fun (chars, rest) => (.ofList chars, rest)
  | _ =>
    let key := s.takeWhile isBareKey
    if key.isEmpty then none else some (.ofList key, s.drop key.length)

def keys? (s : List Char) : Option (List String × List Char) :=
  match simpleKey? (skipSpace s) with
  | none => none
  | some (key, rest) =>
    match skipSpace rest with
    | '.' :: more =>
      if more.length < s.length then (keys? more).map fun (keys, rest) => (key :: keys, rest) else none
    | rest => some ([key], rest)
termination_by s.length

def longestPath : Nat := 80

def path? (s : List Char) : Option (List String × List Char) :=
  (keys? s).filter fun (keys, _) => keys.length ≤ longestPath

def isSpaced (isDigit : Char → Bool) : List Char → Bool
  | before :: '_' :: after =>
    isDigit before && (match after with | c :: _ => isDigit c | [] => false) && isSpaced isDigit after
  | _ :: rest => isSpaced isDigit rest
  | [] => true

def isGrouped (isDigit : Char → Bool) (s : List Char) : Bool := s.head? != some '_' && isSpaced isDigit s

def ungrouped (s : List Char) : List Char := s.filter (· ≠ '_')

def isHexDigit (c : Char) : Bool := (Literal.digit? 16 c).isSome

def based (base : Nat) (digits : List Char) (negative : Bool) : Toml :=
  match Literal.natural? base (ungrouped digits) with
  | some n => .integer (if negative then -n else n)
  | none => .other

def marked? (base : Nat) (digits : List Char) : Option Toml :=
  if isGrouped isHexDigit digits && digits.all (fun c => c = '_' || (Literal.digit? base c).isSome) then
    some (based base digits false)
  else none

def isDigitPart (c : Char) : Bool := c.isDigit || c = '_'

def digitRun? (s : List Char) : Option (List Char × List Char) :=
  let run := s.takeWhile isDigitPart
  if run.any Char.isDigit then some (run, s.drop run.length) else none

def afterPlaces? : List Char → Option (List Char)
  | '.' :: rest => (digitRun? rest).map Prod.snd
  | s => some s

def afterPower? : List Char → Option (List Char)
  | c :: rest =>
    if c = 'e' || c = 'E' then (digitRun? (Literal.sign rest).2).map Prod.snd else some (c :: rest)
  | [] => some []

def isFraction (body : List Char) : Bool :=
  match digitRun? body with
  | some (whole, rest) =>
    !(body.head? == some '0' && 1 < (whole.filter Char.isDigit).length)
      && ((afterPlaces? rest).bind afterPower? == some [])
  | none => false

def twoDigits (low high : Nat) (s : List Char) : Bool :=
  s.length == 2 && (Literal.natural? 10 s).any fun n => low ≤ n && n ≤ high

def isTime (s : List Char) : Bool :=
  twoDigits 0 23 (s.take 2) && (s.drop 2).head? == some ':' && twoDigits 0 59 ((s.drop 3).take 2) &&
    match s.drop 5 with
    | [] => true
    | ':' :: more => twoDigits 0 60 (more.take 2) &&
      match more.drop 2 with
      | [] => true
      | '.' :: places => !places.isEmpty && places.all Char.isDigit
      | _ => false
    | _ => false

def isOffsetTime (s : List Char) : Bool :=
  let time := s.takeWhile fun c => c.isDigit || c = ':' || c = '.'
  isTime time && match s.drop time.length with
    | [] => true
    | ['Z'] | ['z'] => true
    | c :: offset =>
      (c = '+' || c = '-') && offset.length == 5 && twoDigits 0 23 (offset.take 2)
        && (offset.drop 2).head? == some ':' && twoDigits 0 59 (offset.drop 3)

def daysIn (year month : Nat) : Nat :=
  if month = 2 then if year % 4 = 0 ∧ (year % 100 ≠ 0 ∨ year % 400 = 0) then 29 else 28
  else if [4, 6, 9, 11].contains month then 30
  else 31

def isDate (s : List Char) : Bool :=
  match Literal.natural? 10 (s.take 4), Literal.natural? 10 ((s.drop 5).take 2) with
  | some year, some month =>
    (s.drop 4).head? == some '-' && twoDigits 1 12 ((s.drop 5).take 2)
      && (s.drop 7).head? == some '-' && twoDigits 1 (daysIn year month) ((s.drop 8).take 2)
  | _, _ => false

def isMoment (s : List Char) : Bool :=
  isTime s || isDate s && match s.drop 10 with
    | [] => true
    | c :: time => [' ', 'T', 't'].contains c && isOffsetTime time

def decimal? (word : List Char) : Option Toml :=
  let (negative, body) := Literal.sign word
  let rest := body.dropWhile Char.isDigit
  let leadingZero := body.head? == some '0' && body.length ≠ 1
  match rest with
  | [] => if leadingZero then none else some (based 10 body negative)
  | '-' :: _ | ':' :: _ => if isMoment word then some .other else none
  | c :: _ =>
    if rest.any fun c => c = '.' || c = 'e' || c = 'E' then
      if isFraction body && isGrouped Char.isDigit word then some .other else none
    else if c = '_' && !leadingZero && isGrouped isHexDigit word then some (based 10 body negative)
    else none

def isPart (c : Char) : Bool := !" \t\r\n#=,[]\x7b\x7d".toList.contains c

def bareWord (s : List Char) : List Char :=
  let word := s.takeWhile isPart
  match s.drop word.length with
  | ' ' :: more =>
    let time := more.takeWhile isPart
    if isDate word && word.length = 10 && !time.isEmpty then word ++ ' ' :: time else word
  | _ => word

def bare? (word : List Char) : Option Toml :=
  match word with
  | '0' :: 'x' :: digits => marked? 16 digits
  | '0' :: 'o' :: digits => marked? 8 digits
  | '0' :: 'b' :: digits => marked? 2 digits
  | _ =>
    let body := (Literal.sign word).2
    if ["true", "false"].contains (String.ofList word) || ["inf", "nan"].contains (String.ofList body) then
      some .other
    else if body.head?.any isDigitPart then decimal? word
    else none

def scalar? (s : List Char) : Option (Toml × List Char) :=
  let word := bareWord s
  (bare? word).map fun value => (value, s.drop word.length)

def deepest : Nat := 80

/- Every step takes a character, so the length of the text bounds the steps. -/
mutual
def value? (fuel depth : Nat) (s : List Char) : Option (Toml × List Char) :=
  match fuel with
  | 0 => none
  | fuel + 1 =>
    match s with
    | '"' :: _ | '\'' :: _ => (string? s).map fun (str, rest) => (.text str, rest)
    | '[' :: rest =>
      if depth = 0 then none
      else (items? fuel (depth - 1) (skipGap rest)).map fun (items, rest) => (.list items, rest)
    | '\x7b' :: rest =>
      if depth = 0 then none
      else (pairs? fuel (depth - 1) (skipGap rest) []).map fun (entries, rest) =>
        (.table (finishEntries entries), rest)
    | _ => scalar? s

def items? (fuel depth : Nat) (s : List Char) : Option (List Toml × List Char) :=
  match fuel with
  | 0 => none
  | fuel + 1 =>
    match s with
    | ']' :: rest => some ([], rest)
    | _ => do
      let (item, rest) ← value? fuel depth s
      match skipGap rest with
      | ',' :: more => (items? fuel depth (skipGap more)).map fun (items, rest) => (item :: items, rest)
      | ']' :: more => some ([item], more)
      | _ => none

def pairs? (fuel depth : Nat) (s : List Char) (entries : Entries) : Option (Entries × List Char) :=
  match fuel with
  | 0 => none
  | fuel + 1 =>
    match s with
    | '\x7d' :: rest => some (entries, rest)
    | _ => do
      let (path, rest) ← path? s
      match rest with
      | '=' :: more =>
        let (value, rest) ← value? fuel depth (skipSpace more)
        let entries ← entries.addDotted value path
        match skipGap rest with
        | ',' :: more => pairs? fuel depth (skipGap more) entries
        | '\x7d' :: more => some (entries, more)
        | _ => none
      | _ => none
end

structure Document where
  entries : Entries
  path : List String
  deriving Repr

def expression? (d : Document) (s : List Char) : Option (Document × List Char) :=
  let header (make : String → Entries → Option Entries) (path : List String) : Option Document := do
    let key ← path.getLast?
    let entries ← d.entries.within (make key) path.dropLast
    some ⟨entries, path⟩
  match s with
  | '[' :: '[' :: rest => do
    let (path, rest) ← path? rest
    match rest with
    | ']' :: ']' :: more => (header Entries.appendTable path).map fun d => (d, more)
    | _ => none
  | '[' :: rest => do
    let (path, rest) ← path? rest
    match rest with
    | ']' :: more => (header Entries.openTable path).map fun d => (d, more)
    | _ => none
  | [] => some (d, [])
  | c :: _ =>
    if c = '#' || (newline? s).isSome then some (d, s)
    else do
      let (path, rest) ← path? s
      match rest with
      | '=' :: more =>
        let (value, rest) ← value? s.length deepest (skipSpace more)
        let entries ← d.entries.within (fun table => table.addDotted value path) d.path
        some (⟨entries, d.path⟩, rest)
      | _ => none

def lines? (d : Document) (s : List Char) : Option Document :=
  match expression? d (skipSpace s) with
  | none => none
  | some (d, rest) =>
    let rest := afterComment (skipSpace rest)
    if rest.isEmpty then some d
    else match newline? rest with
      | some more => if more.length < s.length then lines? d more else none
      | none => none
termination_by s.length

def read? (s : String) : Option (List (String × Toml)) :=
  let start := match s.toList with
    | '\uFEFF' :: rest => rest
    | all => all
  (lines? ⟨[], []⟩ start).map fun d => finishEntries d.entries

end Syllabus.Toml
