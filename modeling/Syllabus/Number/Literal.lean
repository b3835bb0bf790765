import Syllabus.Number.Binary64

/-! Numbers as written: runs of digits in a base, and decimals with an optional point, exponent and
sign. A decimal has a digit on at least one side of its point. -/
namespace Syllabus.Literal

def digit? (base : Nat) (c : Char) : Option Nat :=
  let value :=
    if '0' ≤ c && c ≤ '9' then some (c.toNat - 48)
    else if 'a' ≤ c && c ≤ 'z' then some (c.toNat - 87)
    else if 'A' ≤ c && c ≤ 'Z' then some (c.toNat - 55)
    else none
  value.filter (· < base)

def natural? (base : Nat) (digits : List Char) : Option Nat :=
  if digits.isEmpty then none
  else digits.foldlM (fun n c => (digit? base c).map (base * n + ·)) 0

def sign : List Char → Bool × List Char
  | '-' :: rest => (true, rest)
  | '+' :: rest => (false, rest)
  | s => (false, s)

def exponent? : List Char → Option Int
  | [] => some 0
  | c :: rest =>
    if c = 'e' ∨ c = 'E' then
      let (negative, digits) := sign rest
      (natural? 10 digits).map fun n => if negative then -(n : Int) else n
    else none

def decimal? (s : List Char) : Option (Bool × Nat × Int) := do
  let (negative, body) := sign s
  let whole := body.takeWhile Char.isDigit
  let after := body.drop whole.length
  let (fraction, after) := match after with
    | '.' :: rest => (rest.takeWhile Char.isDigit, rest.dropWhile Char.isDigit)
    | _ => ([], after)
  let digits ← natural? 10 (whole ++ fraction)
  let exponent ← exponent? after
  some (negative, digits, exponent - fraction.length)

def binary? (s : List Char) : Option Binary64 :=
  (decimal? s).map fun (negative, digits, exponent) => .ofDecimal negative digits exponent

end Syllabus.Literal
