import Syllabus.Number.Binary64

/-! The shortest decimal that reads back as a given binary number, and its text.
The decimals that round to the number fill an interval around it, ends included when the mantissa
is even. For one digit, two digits, and so on, the two neighbours of the number on the grid of that
many digits are tried; the first grid with a neighbour inside the interval gives the answer, and of
two neighbours the nearer one, a tie going to the even one. -/
namespace Syllabus

structure Decimal where
  digits : Nat
  exponent : Int
  deriving DecidableEq, Repr, Inhabited

namespace Decimal

structure Interval where
  low : Nat
  mid : Nat
  high : Nat
  closed : Bool
  deriving DecidableEq, Repr

def interval (units : Nat) : Interval :=
  let gap := Binary64.gap units
  let mantissa := units / gap
  let below := if gap ≠ 1 ∧ mantissa = Nat.pow 2 (Binary64.mantissaBits - 1) then gap else 2 * gap
  ⟨4 * units - below, 4 * units, 4 * units + 2 * gap, mantissa % 2 == 0⟩

def quarters : Nat := 4 * Binary64.one

def scales (exponent : Int) : Nat × Nat :=
  match exponent with
  | .ofNat e => (1, quarters * Nat.pow 10 e)
  | .negSucc e => (Nat.pow 10 (e + 1), quarters)

def holds (i : Interval) (scale : Nat × Nat) (digits : Nat) : Bool :=
  let point := digits * scale.2
  if i.closed then i.low * scale.1 ≤ point && point ≤ i.high * scale.1
  else i.low * scale.1 < point && point < i.high * scale.1

def onGrid? (i : Interval) (exponent : Int) : Option Nat :=
  let scale := scales exponent
  let value := i.mid * scale.1
  let low := value / scale.2
  let rest := 2 * (value % scale.2)
  let nearLow := rest < scale.2 || (rest == scale.2 && low % 2 == 0)
  match holds i scale low, holds i scale (low + 1) with
  | true, true => some (if nearLow then low else low + 1)
  | true, false => some low
  | false, true => some (low + 1)
  | false, false => none

def leading (num den : Nat) : Int :=
  if den ≤ num then (Binary64.digitCount (num / den) : Int) - 1
  else
    let places := Binary64.digitCount (den / num)
    if den ≤ num * Nat.pow 10 (places - 1) then -((places : Int) - 1) else -(places : Int)

def dropZeros (digits : Nat) (exponent : Int) : Decimal :=
  if h : digits ≠ 0 ∧ digits % 10 = 0 then dropZeros (digits / 10) (exponent + 1)
  else ⟨digits, exponent⟩
termination_by digits
decreasing_by omega

def search (i : Interval) (top : Int) : Nat → Decimal
  | 0 => ⟨i.mid / quarters, 0⟩
  | left + 1 =>
    let exponent := top - (16 - left : Int)
    match onGrid? i exponent with
    | some digits => dropZeros digits exponent
    | none => search i top left

def shortest (units : Nat) : Decimal :=
  if units = 0 then ⟨0, 0⟩
  else search (interval units) (leading (4 * units) quarters) 17

/-- Where a text turns from positional digits to an exponent: the digits before the point are at
most `most`, and the zeros after it fewer than `zeros`. -/
structure Layout where
  most : Int
  zeros : Int
  deriving DecidableEq, Repr

def zerosText (n : Nat) : List Char := List.replicate n '0'

def text (layout : Layout) (d : Decimal) : String :=
  let digits := Nat.toDigits 10 d.digits
  let whole := digits.length + d.exponent
  if d.digits = 0 then "0.0"
  else if 0 ≤ d.exponent ∧ whole ≤ layout.most then
    .ofList (digits ++ zerosText d.exponent.toNat ++ ['.', '0'])
  else if 0 < whole ∧ whole ≤ layout.most then
    .ofList (digits.take whole.toNat ++ '.' :: digits.drop whole.toNat)
  else if whole ≤ 0 ∧ -layout.zeros < whole then
    .ofList ('0' :: '.' :: zerosText whole.natAbs ++ digits)
  else
    .ofList (digits.take 1 ++ (if digits.length = 1 then [] else '.' :: digits.drop 1) ++ ['e'])
      ++ toString (whole - 1)

end Decimal

namespace Binary64

def text (layout : Decimal.Layout) (whenNot : String) : Binary64 → String
  | .finite negative units =>
    (if negative then "-" else "") ++ Decimal.text layout (Decimal.shortest units)
  | _ => whenNot

end Binary64
end Syllabus
