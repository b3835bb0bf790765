import Syllabus.Json.Basic

/-! Reading JSON: strict, one value, white space around it. Text becomes tokens, and tokens become
a value by a stack of the lists and objects still open, one step a token. A decimal is its first
digits that fit sixty-four bits, times a power of ten, each step rounded. -/
namespace Syllabus.Json

structure Numeral where
  negative : Bool
  whole : List Char
  fraction : List Char
  exponent : Option (Bool × List Char)
  deriving DecidableEq, Repr

inductive Token where
  | openList | closeList | openObject | closeObject | comma | colon
  | scalar (value : Json)
  deriving Repr

def wordLimit : Nat := UInt64.size

def digitValue (c : Char) : Nat := c.toNat - 48

def readDigits (digits : List Char) : Nat :=
  digits.foldl (fun n c => 10 * n + digitValue c) 0

def fitting (start : Nat) : List Char → Nat × List Char
  | [] => (start, [])
  | c :: rest =>
    if 10 * start + digitValue c < wordLimit then fitting (10 * start + digitValue c) rest
    else (start, c :: rest)

def exponentLimit : Nat := Nat.pow 2 31 - 1

def largestPower : Nat := 308

def powerOfTen (n : Nat) : Binary64 := .ofNat (Nat.pow 10 n)

/-- Scales a word by a power of ten: one product, or one quotient after whole steps of `10 ^ 308`.
No value when the product leaves the range. -/
def scale (x : Binary64) (exponent : Int) : Option Binary64 :=
  match exponent with
  | .ofNat e =>
    if x.isZero then some x
    else if largestPower < e then none
    else
      let y := x.mul (powerOfTen e)
      if y.isFinite then some y else none
  | .negSucc e =>
    let n := e + 1
    let divide (x : Binary64) (n : Nat) : Binary64 :=
      match (powerOfTen n).toUnits? with
      | some units => x.divFinite units.natAbs
      | none => x
    /- Four steps bring every word to zero. -/
    let steps := min ((n - 1) / largestPower) 4
    let reduced := (List.range steps).foldl (fun x _ => divide x largestPower) x
    some (if reduced.isZero then reduced else divide reduced (n - largestPower * steps))

def Numeral.real? (n : Numeral) : Option Binary64 :=
  let (start, lost) := fitting 0 n.whole
  let (word, unused) := fitting start n.fraction
  let base : Int := lost.length - (n.fraction.length - unused.length : Nat)
  let sized (exponent : Int) : Option Binary64 :=
    (scale (.ofNat word) exponent).map fun x => if n.negative then x.neg else x
  match n.exponent with
  | none => sized base
  | some (negative, digits) =>
    let e := readDigits digits
    if exponentLimit < e then
      if word ≠ 0 ∧ !negative then none
      else some (if n.negative then Binary64.zero.neg else .zero)
    else sized (if negative then base - e else base + e)

def Numeral.number (n : Numeral) : Number :=
  let magnitude := readDigits n.whole
  if n.fraction.isEmpty && n.exponent.isNone && !n.negative && magnitude < wordLimit then
    .integer magnitude
  else if n.fraction.isEmpty && n.exponent.isNone && n.negative && 0 < magnitude
      && magnitude ≤ wordLimit / 2 then
    .integer (-(magnitude : Int))
  else match n.real? with
    | some x => .real x
    | none => .beyond

def spanDigits (s : List Char) : List Char × List Char := (s.takeWhile Char.isDigit, s.dropWhile Char.isDigit)

def exponentPart (s : List Char) : Option (Option (Bool × List Char) × List Char) :=
  match s with
  | 'e' :: rest | 'E' :: rest =>
    let (negative, rest) := match rest with
      | '-' :: rest => (true, rest)
      | '+' :: rest => (false, rest)
      | rest => (false, rest)
    let (digits, rest) := spanDigits rest
    if digits.isEmpty then none else some (some (negative, digits), rest)
  | _ => some (none, s)

def fractionPart (s : List Char) : Option (List Char × List Char) :=
  match s with
  | '.' :: rest =>
    let (digits, rest) := spanDigits rest
    if digits.isEmpty then none else some (digits, rest)
  | _ => some ([], s)

def numeral? (s : List Char) : Option (Numeral × List Char) := do
  let (negative, s) := match s with
    | '-' :: rest => (true, rest)
    | _ => (false, s)
  let (whole, s) := spanDigits s
  if whole.isEmpty || (whole.head? == some '0' && 1 < whole.length) then none
  let (fraction, s) ← fractionPart s
  let (exponent, s) ← exponentPart s
  some (⟨negative, whole, fraction, exponent⟩, s)

def hexValue? (c : Char) : Option Nat :=
  if '0' ≤ c && c ≤ '9' then some (c.toNat - 48)
  else if 'a' ≤ c && c ≤ 'f' then some (c.toNat - 87)
  else if 'A' ≤ c && c ≤ 'F' then some (c.toNat - 55)
  else none

def hex4? (a b c d : Char) : Option Nat := do
  let digits ← [a, b, c, d].mapM hexValue?
  some (digits.foldl (fun n x => 16 * n + x) 0)

def plainEscape? : Char → Option Nat
  | '"' => some 34
  | '\\' => some 92
  | '/' => some 47
  | 'b' => some 8
  | 'f' => some 12
  | 'n' => some 10
  | 'r' => some 13
  | 't' => some 9
  | _ => none

def quoted? : List Char → Option (List Nat × List Char)
  | [] => none
  | '"' :: rest => some ([], rest)
  | '\\' :: 'u' :: a :: b :: c :: d :: rest => do
    let code ← hex4? a b c d
    let (codes, rest) ← quoted? rest
    some (code :: codes, rest)
  | '\\' :: c :: rest => do
    let code ← plainEscape? c
    let (codes, rest) ← quoted? rest
    some (code :: codes, rest)
  | c :: rest =>
    if c.toNat < 0x20 ∨ c = '\\' then none
    else do
      let (codes, rest) ← quoted? rest
      some (c.toNat :: codes, rest)

def isHigh (code : Nat) : Bool := 0xD800 ≤ code && code < 0xDC00

def isLow (code : Nat) : Bool := 0xDC00 ≤ code && code < 0xE000

def pairUp : List Nat → Option (List Char)
  | [] => some []
  | code :: rest =>
    if isHigh code then
      match rest with
      | low :: rest =>
        if isLow low then
          (pairUp rest).map (Char.ofNat (0x10000 + (code - 0xD800) * 0x400 + (low - 0xDC00)) :: ·)
        else none
      | [] => none
    else if isLow code then none
    else (pairUp rest).map (Char.ofNat code :: ·)

def textOf (codes : List Nat) : Json :=
  match pairUp codes with
  | some s => .text (.ofList s)
  | none => .broken

def isSpace (c : Char) : Bool := c = ' ' || c = '\n' || c = '\t' || c = '\r'

def token? (s : List Char) : Option (Token × List Char) :=
  match s with
  | '[' :: rest => some (.openList, rest)
  | ']' :: rest => some (.closeList, rest)
  | '\x7b' :: rest => some (.openObject, rest)
  | '\x7d' :: rest => some (.closeObject, rest)
  | ',' :: rest => some (.comma, rest)
  | ':' :: rest => some (.colon, rest)
  | '"' :: rest => (quoted? rest).map fun (codes, rest) => (.scalar (textOf codes), rest)
  | 't' :: 'r' :: 'u' :: 'e' :: rest => some (.scalar (.bool true), rest)
  | 'f' :: 'a' :: 'l' :: 's' :: 'e' :: rest => some (.scalar (.bool false), rest)
  | 'n' :: 'u' :: 'l' :: 'l' :: rest => some (.scalar .null, rest)
  | _ => (numeral? s).map fun (n, rest) => (.scalar (.number n.number), rest)

def tokensWithin : (bound : Nat) → List Char → Option (List Token)
  | 0, _ => none
  | bound + 1, s =>
    match s.dropWhile isSpace with
    | [] => some []
    | c :: more => (token? (c :: more)).bind fun (token, rest) => (tokensWithin bound rest).map (token :: ·)

def tokens? (s : List Char) : Option (List Token) := tokensWithin (s.length + 1) s

abbrev Members := List (Option String × Json)

def Members.object (done : Members) : Json :=
  match done.reverse.mapM fun (name, value) => name.map fun name => (name, value) with
  | some members => .object members
  | none => .broken

inductive Frame where
  | list (done : List Json)
  | object (done : Members) (name : Option String)
  deriving Repr

inductive Expected where
  | value
  | valueOrClose
  | name (done : Members) (mayClose : Bool)
  | colon (done : Members) (name : Option String)
  | separator
  | done (value : Json)
  deriving Repr

structure Reading where
  stack : List Frame
  expected : Expected
  deriving Repr

def Reading.finish (value : Json) : List Frame → Reading
  | [] => ⟨[], .done value⟩
  | .list done :: stack => ⟨.list (value :: done) :: stack, .separator⟩
  | .object done name :: stack => ⟨.object ((name, value) :: done) name :: stack, .separator⟩

def Reading.startValue (stack : List Frame) : Token → Option Reading
  | .openList => some ⟨.list [] :: stack, .valueOrClose⟩
  | .openObject => some ⟨stack, .name [] true⟩
  | .scalar value => some (.finish value stack)
  | _ => none

def Reading.next (r : Reading) (token : Token) : Option Reading :=
  match r.expected, token, r.stack with
  | .value, token, stack => startValue stack token
  | .valueOrClose, .closeList, .list done :: stack => some (finish (.list done.reverse) stack)
  | .valueOrClose, token, stack => startValue stack token
  | .name done true, .closeObject, stack => some (finish done.object stack)
  | .name done _, .scalar (.text name), stack => some ⟨stack, .colon done (some name)⟩
  | .name done _, .scalar .broken, stack => some ⟨stack, .colon done none⟩
  | .colon done name, .colon, stack => some ⟨.object done name :: stack, .value⟩
  | .separator, .comma, .list done :: stack => some ⟨.list done :: stack, .value⟩
  | .separator, .closeList, .list done :: stack => some (finish (.list done.reverse) stack)
  | .separator, .comma, .object done _ :: stack => some ⟨stack, .name done false⟩
  | .separator, .closeObject, .object done _ :: stack => some (finish done.object stack)
  | _, _, _ => none

def ofTokens? (tokens : List Token) : Option Json :=
  match tokens.foldlM Reading.next ⟨[], .value⟩ with
  | some ⟨[], .done value⟩ => some value
  | _ => none

def read? (s : String) : Option Json := (tokens? s.toList).bind ofTokens?

end Syllabus.Json
