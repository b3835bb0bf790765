/-! Binary floating-point numbers of sixty-four bits, held exactly.
Every finite one is a whole multiple of 2^-1074, so a value is a sign and that multiple; an
operation computes the exact result and rounds it once, to nearest, ties to even. Not-a-number is
one value here: its payload is never shown. -/
namespace Syllabus

inductive Binary64 where
  | finite (negative : Bool) (units : Nat)
  | infinite (negative : Bool)
  | undefined
  deriving DecidableEq, Repr, Inhabited

namespace Binary64

def one : Nat := Nat.pow 2 1074

def mantissaBits : Nat := 53

def roundDiv (num den : Nat) : Nat :=
  let low := num / den
  let rest := 2 * (num % den)
  if rest < den then low
  else if den < rest then low + 1
  else low + low % 2

def gap (units : Nat) : Nat := Nat.pow 2 (Nat.log2 units + 1 - mantissaBits)

/-- The nearest representable multiple to `num / den` units; the exponent range has no upper end here. -/
def roundUnits (num den : Nat) : Nat :=
  let step := gap (num / den)
  step * roundDiv num (den * step)

def ceiling : Nat := Nat.pow 2 2098

def pack (negative : Bool) (units : Nat) : Binary64 :=
  if units < ceiling then .finite negative units else .infinite negative

def ofRatio (negative : Bool) (num den : Nat) : Binary64 :=
  pack negative (roundUnits (num * one) den)

def ofNat (n : Nat) : Binary64 := ofRatio false n 1

def ofInt (n : Int) : Binary64 := ofRatio (n < 0) n.natAbs 1

def zero : Binary64 := .finite false 0

def digitCount (n : Nat) : Nat := (Nat.toDigits 10 n).length

def ofDecimal (negative : Bool) (digits : Nat) (exponent : Int) : Binary64 :=
  let top := exponent + digitCount digits
  if digits = 0 then .finite negative 0
  else if 400 < top then .infinite negative
  else if top < -400 then .finite negative 0
  else match exponent with
    | .ofNat e => ofRatio negative (digits * Nat.pow 10 e) 1
    | .negSucc e => ofRatio negative digits (Nat.pow 10 (e + 1))

def toUnits? : Binary64 → Option Int
  | .finite negative units => some (if negative then -(units : Int) else units)
  | _ => none

def neg : Binary64 → Binary64
  | .finite negative units => .finite (!negative) units
  | .infinite negative => .infinite (!negative)
  | .undefined => .undefined

def abs : Binary64 → Binary64
  | .finite _ units => .finite false units
  | .infinite _ => .infinite false
  | .undefined => .undefined

def isFinite : Binary64 → Bool
  | .finite .. => true
  | _ => false

def ofUnits (units : Int) : Binary64 := pack (units < 0) (roundUnits units.natAbs 1)

def add : Binary64 → Binary64 → Binary64
  | .finite n a, .finite m b =>
    if a = 0 ∧ b = 0 then .finite (n && m) 0
    else ofUnits ((if n then -(a : Int) else a) + (if m then -(b : Int) else b))
  | .infinite n, .infinite m => if n = m then .infinite n else .undefined
  | .infinite n, .finite .. => .infinite n
  | .finite .., .infinite m => .infinite m
  | _, _ => .undefined

def sub (x y : Binary64) : Binary64 := add x (neg y)

def mul : Binary64 → Binary64 → Binary64
  | .finite n a, .finite m b => pack (n != m) (roundUnits (a * b) one)
  | .infinite n, .infinite m => .infinite (n != m)
  | .infinite n, .finite m b => if b = 0 then .undefined else .infinite (n != m)
  | .finite n a, .infinite m => if a = 0 then .undefined else .infinite (n != m)
  | _, _ => .undefined

def divFinite (x : Binary64) (units : Nat) : Binary64 :=
  match x with
  | .finite n a => pack n (roundUnits (a * one) units)
  | other => other

def le : Binary64 → Binary64 → Bool
  | .undefined, _ => false
  | _, .undefined => false
  | .infinite n, .infinite m => n || !m
  | .infinite n, .finite .. => n
  | .finite .., .infinite m => !m
  | .finite n a, .finite m b =>
    (if n then -(a : Int) else a) ≤ (if m then -(b : Int) else b)

def lt (x y : Binary64) : Bool := le x y && !le y x

def eq (x y : Binary64) : Bool := le x y && le y x

def isZero : Binary64 → Bool
  | .finite _ units => units = 0
  | _ => false

end Binary64
end Syllabus
