import Syllabus.Timestamp

/-! Times read with counters of sixty-four bits, in one pass and with every step checked. A counter that may run over
refuses the text where it does. Where the reading relies on a sum or a product to be small, a large one has no answer,
and without it nothing has. The form of a time admits the digits of all scripts; it is the counters that take ASCII
digits only. The digits of a script (the general category Nd) are a run of ten, from its zero on. -/
namespace Syllabus

namespace Text

def decimalZeros : List Nat :=
  [0x30, 0x660, 0x6F0, 0x7C0, 0x966, 0x9E6, 0xA66, 0xAE6, 0xB66, 0xBE6, 0xC66, 0xCE6, 0xD66, 0xDE6, 0xE50,
   0xED0, 0xF20, 0x1040, 0x1090, 0x17E0, 0x1810, 0x1946, 0x19D0, 0x1A80, 0x1A90, 0x1B50, 0x1BB0, 0x1C40,
   0x1C50, 0xA620, 0xA8D0, 0xA900, 0xA9D0, 0xA9F0, 0xAA50, 0xABF0, 0xFF10, 0x104A0, 0x10D30, 0x10D40,
   0x11066, 0x110F0, 0x11136, 0x111D0, 0x112F0, 0x11450, 0x114D0, 0x11650, 0x116C0, 0x116D0, 0x116DA,
   0x11730, 0x118E0, 0x11950, 0x11BF0, 0x11C50, 0x11D50, 0x11DA0, 0x11F50, 0x16130, 0x16A60, 0x16AC0,
   0x16B50, 0x16D70, 0x1CCF0, 0x1D7CE, 0x1D7D8, 0x1D7E2, 0x1D7EC, 0x1D7F6, 0x1E140, 0x1E2F0, 0x1E4F0,
   0x1E5F1, 0x1E950, 0x1FBF0]

def isDecimal (c : Char) : Bool := decimalZeros.any fun start => start ≤ c.toNat && c.toNat ≤ start + 9

theorem decimalOfDigit {c : Char} (digit : c.isDigit = true) : isDecimal c = true := by
  simp only [Char.isDigit, Bool.and_eq_true, decide_eq_true_eq, ge_iff_le, UInt32.le_iff_toNat_le] at digit
  refine List.any_eq_true.mpr ⟨0x30, List.mem_cons_self, ?_⟩
  simp only [Bool.and_eq_true, decide_eq_true_eq]
  exact digit

end Text

/-- What passes for a digit in the form of a time: the ASCII digits and perhaps others, but no sign between the fields. -/
structure DigitClass where
  has : Char → Bool
  ascii : ∀ c, c.isDigit = true → has c = true
  colon : has ':' = false
  point : has '.' = false

def DigitClass.decimal : DigitClass := ⟨Text.isDecimal, fun _ => Text.decimalOfDigit, by decide, by decide⟩

namespace Timestamp.Counted

def product? (a b : UInt64) : Option UInt64 := if a.toNat * b.toNat < UInt64.size then some (a * b) else none

def sum? (a b : UInt64) : Option UInt64 := if a.toNat + b.toNat < UInt64.size then some (a + b) else none

def push? (n : UInt64) (c : Char) : Option UInt64 :=
  if c.isDigit then do
    let tens ← product? 10 n
    sum? tens (.ofNat (c.toNat - 48))
  else none

def counter? (s : List Char) : Option UInt64 := s.foldlM push? 0

def wholeSeconds? (hours minutes seconds : UInt64) : Option (Option UInt64) :=
  match product? hours 3600 with
  | none => some none
  | some whole => do
    let inMinutes ← product? minutes 60
    let rest ← sum? inMinutes seconds
    some (sum? whole rest)

def ofFace? (f : Face) : Option (Option Timestamp) :=
  match f.hours.elim (some 0) counter?, counter? f.minutes, counter? f.seconds with
  | some hours, some minutes, some seconds =>
    if 60 ≤ seconds ∨ (f.hours.isSome ∧ 60 ≤ minutes) ∨ f.fraction.all Char.isDigit = false then some none
    else do
      let whole ← wholeSeconds? hours minutes seconds
      some (whole.map fun whole => ⟨whole.toNat, f.fraction⟩)
  | _, _, _ => some none

def ofChars? (digits : DigitClass) (s : List Char) : Option (Option Timestamp) :=
  match faceOf? digits.has s with
  | some f => ofFace? f
  | none => some none

def read? (digits : DigitClass) (s : String) : Option (Option Timestamp) := ofChars? digits (Chars.trim s.toList)

end Timestamp.Counted
end Syllabus
