import Syllabus.Number.Literal
import Syllabus.Proofs.Number.Shortest

/-! The text of a number tells the number. A decimal is written with a point, or as one digit, perhaps a point with
further digits, and an exponent; read back as sign, digits and power of ten it has the value it was written with.
Since the shortest decimals of two numbers have different values, their texts are different. -/
namespace Syllabus

namespace Literal

structure Run (digits : List Char) : Prop where
  nonempty : digits ≠ []
  digit : ∀ c ∈ digits, c.isDigit = true

theorem digitPlain {c : Char} (digit : c.isDigit = true) : digit? 10 c = some (c.toNat - '0'.toNat) := by
  have range : '0' ≤ c ∧ c ≤ '9' := by
    simpa [Char.isDigit, Char.le_def] using digit
  have size : c.toNat - 48 < 10 := by
    have := range.2
    have : c.toNat ≤ 57 := this
    omega
  simp only [digit?, range.1, range.2, decide_true, Bool.and_self, if_true]
  exact Option.filter_some_pos (by simpa using size)

theorem naturalRun {digits : List Char} (run : Run digits) : natural? 10 digits = some (Nat.ofDigitChars 10 digits 0) := by
  have from' (start : Nat) (digits : List Char) (digit : ∀ c ∈ digits, c.isDigit = true) :
      digits.foldlM (fun n c => (digit? 10 c).map (10 * n + ·)) start = some (Nat.ofDigitChars 10 digits start) := by
    induction digits generalizing start with
    | nil => rfl
    | cons c more ih =>
      rw [List.foldlM_cons, digitPlain (digit c List.mem_cons_self), Nat.ofDigitChars_cons]
      exact ih _ fun d member => digit d (List.mem_cons_of_mem _ member)
  rw [natural?, if_neg (by simp [run.nonempty])]
  exact from' 0 digits run.digit

theorem takeRun {digits after : List Char} (digit : ∀ c ∈ digits, c.isDigit = true)
    (stop : ∀ c, after.head? = some c → c.isDigit = false) :
    (digits ++ after).takeWhile Char.isDigit = digits ∧ (digits ++ after).dropWhile Char.isDigit = after := by
  rw [List.takeWhile_append_of_pos digit, List.dropWhile_append_of_pos digit]
  cases after with
  | nil => simp
  | cons c rest =>
    have := stop c rfl
    simp [this]

theorem signDigits {body : List Char} (digit : ∀ c, body.head? = some c → c.isDigit = true) (negative : Bool) :
    sign ((if negative then ['-'] else []) ++ body) = (negative, body) := by
  cases negative with
  | true => rfl
  | false =>
    cases body with
    | nil => rfl
    | cons c rest =>
      have digit := digit c rfl
      rw [if_neg (by decide), List.nil_append]
      unfold sign
      split
      · rename_i same
        cases same
        cases digit
      · rename_i same
        cases same
        cases digit
      · rfl

theorem naturalRepr (n : Nat) : Run n.repr.toList ∧ natural? 10 n.repr.toList = some n := by
  have run : Run n.repr.toList := by
    rw [Nat.toList_repr]
    exact ⟨Nat.toDigits_ne_nil, fun c member => Nat.isDigit_of_mem_toDigits (by decide) (by decide) member⟩
  refine ⟨run, ?_⟩
  rw [naturalRun run, Nat.toList_repr, Nat.ofDigitChars_toDigits (by decide) (by decide)]

theorem headRun {digits rest : List Char} (run : Run digits) :
    ∀ c, (digits ++ rest).head? = some c → c.isDigit = true := by
  intro c head
  cases digits with
  | nil => exact absurd rfl run.nonempty
  | cons d more =>
    cases head
    exact run.digit c List.mem_cons_self

theorem integerText (e : Int) :
    (toString e).toList = (if e < 0 then ['-'] else []) ++ e.natAbs.repr.toList := by
  rw [Int.toString_eq_repr, Int.repr_eq_if]
  rcases lt_or_ge e 0 with negative | positive
  · rw [if_neg (by omega), if_pos negative, String.toList_append, show (-e).toNat = e.natAbs by omega]
    rfl
  · rw [if_pos positive, if_neg (by omega), show e.toNat = e.natAbs by omega]
    rfl

theorem exponentRead (e : Int) : exponent? ('e' :: (toString e).toList) = some e := by
  have digits := naturalRepr e.natAbs
  have signed : sign ((if decide (e < 0) then ['-'] else []) ++ e.natAbs.repr.toList) = (decide (e < 0), e.natAbs.repr.toList) :=
    signDigits (fun c head => digits.1.digit c (List.mem_of_mem_head? head)) _
  rw [integerText]
  simp only [decide_eq_true_eq] at signed
  simp only [exponent?, true_or, if_true, signed, digits.2, decide_eq_true_eq]
  show some (if e < 0 then -(e.natAbs : Int) else e.natAbs) = some e
  congr 1
  split <;> omega

theorem integerOnce {e e' : Int} (same : toString e = toString e') : e = e' := by
  have read := exponentRead e
  rw [same, exponentRead e'] at read
  exact (Option.some.inj read).symm

end Literal

namespace Decimal
open Literal (Run signDigits headRun takeRun naturalRun exponentRead)

structure Written where
  whole : List Char
  fraction : List Char
  exponent : Option Int

namespace Written

def exponentText : Option Int → List Char
  | none => []
  | some e => 'e' :: (toString e).toList

def fractionText (fraction : List Char) : List Char := if fraction.isEmpty then [] else '.' :: fraction

def chars (w : Written) : List Char := w.whole ++ (fractionText w.fraction ++ exponentText w.exponent)

structure Tells (w : Written) (d : Decimal) : Prop where
  whole : Run w.whole
  fraction : ∀ c ∈ w.fraction, c.isDigit = true
  marked : w.fraction ≠ [] ∨ w.exponent.isSome = true
  value : (Nat.ofDigitChars 10 (w.whole ++ w.fraction) 0 : ℚ) * 10 ^ (w.exponent.getD 0 - w.fraction.length) = d.value

theorem exponentTextRead (exponent : Option Int) : Literal.exponent? (exponentText exponent) = some (exponent.getD 0) := by
  cases exponent with
  | none => rfl
  | some e => exact exponentRead e

theorem exponentTextStops (exponent : Option Int) :
    ∀ c, (exponentText exponent).head? = some c → c.isDigit = false ∧ c ≠ '.' := by
  cases exponent with
  | none => nofun
  | some e =>
    intro c head
    cases head
    decide

theorem fractionTextStops (fraction : List Char) (exponent : Option Int) :
    ∀ c, (fractionText fraction ++ exponentText exponent).head? = some c → c.isDigit = false := by
  cases fraction with
  | nil => exact fun c head => (exponentTextStops exponent c head).1
  | cons d more =>
    intro c head
    cases head
    rfl

theorem Tells.pointed {w : Written} {d : Decimal} (tells : w.Tells d) (none : w.exponent = none) :
    w.chars = w.whole ++ '.' :: w.fraction := by
  have some : w.fraction ≠ [] := by simpa [none] using tells.marked
  rw [chars, none, fractionText, if_neg (by simpa using some), exponentText, List.append_nil]

theorem Tells.reads {w : Written} {d : Decimal} (tells : w.Tells d) (negative : Bool) :
    Literal.decimal? ((if negative then ['-'] else []) ++ w.chars) =
      some (negative, Nat.ofDigitChars 10 (w.whole ++ w.fraction) 0, w.exponent.getD 0 - w.fraction.length) := by
  have run : Run (w.whole ++ w.fraction) := by
    refine ⟨by simp [tells.whole.nonempty], fun c member => ?_⟩
    rcases List.mem_append.mp member with inWhole | inFraction
    · exact tells.whole.digit c inWhole
    · exact tells.fraction c inFraction
  have whole := takeRun tells.whole.digit (fractionTextStops w.fraction w.exponent)
  have after : (w.whole ++ (fractionText w.fraction ++ exponentText w.exponent)).drop w.whole.length =
    fractionText w.fraction ++ exponentText w.exponent := List.drop_left
  have read := naturalRun run
  have exponent := exponentTextRead w.exponent
  have fraction := takeRun tells.fraction fun c head => (exponentTextStops w.exponent c head).1
  unfold Literal.decimal?
  rw [chars, signDigits (headRun tells.whole) negative]
  dsimp only
  rw [whole.1, after]
  cases digits : w.fraction with
  | nil =>
    rw [digits] at read
    cases exponent' : w.exponent with
    | none => exact absurd tells.marked (by simp [digits, exponent'])
    | some e =>
      rw [exponent'] at exponent
      simp only [fractionText, List.isEmpty_nil, if_true, List.nil_append]
      show (do
        let digits ← Literal.natural? 10 (w.whole ++ [])
        let power ← Literal.exponent? (exponentText (some e))
        some (negative, digits, power - ([] : List Char).length)) = _
      rw [read, exponent]
      rfl
  | cons d more =>
    rw [digits] at read fraction
    simp only [fractionText, List.isEmpty_cons, Bool.false_eq_true, if_false, List.cons_append]
    simp only [List.cons_append] at fraction
    rw [fraction.1, fraction.2, read, exponent]
    rfl

end Written

open Written (Tells fractionText exponentText)

section Layouts

variable (d : Decimal)

theorem digitsRun (n : Nat) : Run (Nat.toDigits 10 n) :=
  ⟨Nat.toDigits_ne_nil, fun _ member => Nat.isDigit_of_mem_toDigits (by decide) (by decide) member⟩

theorem zerosDigits (n : Nat) : ∀ c ∈ zerosText n, c.isDigit = true := by
  intro c member
  rw [List.eq_of_mem_replicate member]
  rfl

theorem Tells.append {digits more : List Char} (digit : ∀ c ∈ digits, c.isDigit = true)
    (digit' : ∀ c ∈ more, c.isDigit = true) : ∀ c ∈ digits ++ more, c.isDigit = true := by
  intro c member
  exact (List.mem_append.mp member).elim (digit c) (digit' c)

theorem tellsWhole {e : Nat} (exponent : d.exponent = e) :
    Tells ⟨Nat.toDigits 10 d.digits ++ zerosText e, ['0'], none⟩ d where
  whole := ⟨by simp [Nat.toDigits_ne_nil], Tells.append (digitsRun d.digits).digit (zerosDigits e)⟩
  fraction := zerosDigits 1
  marked := .inl (by simp)
  value := by
    have digits : Nat.ofDigitChars 10 (Nat.toDigits 10 d.digits ++ zerosText e ++ ['0']) 0 = 10 * (10 ^ e * d.digits) := by
      rw [Nat.ofDigitChars_append, Nat.ofDigitChars_append, Nat.ofDigitChars_toDigits (by decide) (by decide), zerosText,
        Nat.ofDigitChars_replicate_zero]
      rfl
    dsimp only
    rw [digits, value, exponent, zpow_natCast]
    norm_num
    ring

theorem tellsInner {k : Nat} (some : 0 < k) (inner : (Nat.toDigits 10 d.digits).length + d.exponent = k)
    (below : d.exponent < 0) :
    Tells ⟨(Nat.toDigits 10 d.digits).take k, (Nat.toDigits 10 d.digits).drop k, none⟩ d where
  whole := by
    refine ⟨?_, fun c member => (digitsRun d.digits).digit c (List.mem_of_mem_take member)⟩
    simp [Nat.toDigits_ne_nil, some.ne']
  fraction c member := (digitsRun d.digits).digit c (List.mem_of_mem_drop member)
  marked := by
    left
    simp only [ne_eq, List.drop_eq_nil_iff, not_le]
    omega
  value := by
    dsimp only
    rw [List.take_append_drop, Nat.ofDigitChars_toDigits (by decide) (by decide), value, List.length_drop]
    congr 2
    simp only [Option.getD_none]
    omega

theorem tellsBehind {z : Nat} (behind : (Nat.toDigits 10 d.digits).length + d.exponent = -(z : Int)) :
    Tells ⟨['0'], zerosText z ++ Nat.toDigits 10 d.digits, none⟩ d where
  whole := ⟨by simp, zerosDigits 1⟩
  fraction := Tells.append (zerosDigits z) (digitsRun d.digits).digit
  marked := .inl (by simp [Nat.toDigits_ne_nil])
  value := by
    have digits : Nat.ofDigitChars 10 (['0'] ++ (zerosText z ++ Nat.toDigits 10 d.digits)) 0 = d.digits := by
      rw [Nat.ofDigitChars_append, Nat.ofDigitChars_append, zerosText, Nat.ofDigitChars_replicate_zero]
      exact Nat.ofDigitChars_toDigits (by decide) (by decide)
    dsimp only
    rw [digits, value, List.length_append, zerosText, List.length_replicate]
    congr 2
    simp only [Option.getD_none]
    omega

theorem tellsMarked : Tells ⟨(Nat.toDigits 10 d.digits).take 1, (Nat.toDigits 10 d.digits).drop 1,
    some ((Nat.toDigits 10 d.digits).length + d.exponent - 1)⟩ d where
  whole := by
    refine ⟨?_, fun c member => (digitsRun d.digits).digit c (List.mem_of_mem_take member)⟩
    simp [Nat.toDigits_ne_nil]
  fraction c member := (digitsRun d.digits).digit c (List.mem_of_mem_drop member)
  marked := .inr rfl
  value := by
    have some : 0 < (Nat.toDigits 10 d.digits).length := List.length_pos_of_ne_nil Nat.toDigits_ne_nil
    dsimp only
    rw [List.take_append_drop, Nat.ofDigitChars_toDigits (by decide) (by decide), value, List.length_drop]
    congr 2
    simp only [Option.getD_some]
    omega

end Layouts

theorem textWritten (layout : Layout) (d : Decimal) :
    ∃ w : Written, (text layout d).toList = w.chars ∧ w.Tells d := by
  unfold text
  dsimp only
  split
  · rename_i zero
    refine ⟨⟨['0'], ['0'], none⟩, rfl, ⟨⟨by simp, zerosDigits 1⟩, zerosDigits 1, .inl (by simp), ?_⟩⟩
    rw [value, zero]
    norm_num [Nat.ofDigitChars]
  · split
    · rename_i large
      obtain ⟨e, exponent⟩ := Int.eq_ofNat_of_zero_le large.1
      have tells := tellsWhole d exponent
      refine ⟨_, ?_, tells⟩
      rw [tells.pointed rfl, exponent, String.toList_ofList, Int.toNat_natCast]
    · split
      · rename_i notLarge inner
        have tells := tellsInner d (k := ((Nat.toDigits 10 d.digits).length + d.exponent).toNat) (by omega) (by omega) (by omega)
        refine ⟨_, ?_, tells⟩
        rw [tells.pointed rfl, String.toList_ofList]
      · split
        · rename_i behind
          have tells := tellsBehind d (z := ((Nat.toDigits 10 d.digits).length + d.exponent).natAbs) (by omega)
          refine ⟨_, ?_, tells⟩
          rw [tells.pointed rfl, String.toList_ofList]
          rfl
        · refine ⟨_, ?_, tellsMarked d⟩
          have single : (Nat.toDigits 10 d.digits).length = 1 ↔ ((Nat.toDigits 10 d.digits).drop 1).isEmpty = true := by
            have some : 0 < (Nat.toDigits 10 d.digits).length := List.length_pos_of_ne_nil Nat.toDigits_ne_nil
            rw [List.isEmpty_iff, List.drop_eq_nil_iff]
            omega
          rw [String.toList_append, String.toList_ofList, Written.chars]
          simp only [List.append_assoc, fractionText, single]
          rfl

def numeralChar (c : Char) : Bool := c.isDigit || c = '-' || c = '.' || c = 'e'

theorem integerChars (e : Int) : ∀ c ∈ (toString e).toList, c.isDigit = true ∨ c = '-' := by
  intro c member
  rw [Literal.integerText] at member
  rcases List.mem_append.mp member with sign | digits
  · split at sign
    · exact .inr (List.mem_singleton.mp sign)
    · cases sign
  · exact .inl ((Literal.naturalRepr e.natAbs).1.digit c digits)

namespace Written.Tells

variable {w : Written} {d : Decimal} (tells : w.Tells d)
include tells

theorem numeral : ∀ c ∈ w.chars, numeralChar c = true := by
  have digit (c : Char) (digit : c.isDigit = true) : numeralChar c = true := by simp [numeralChar, digit]
  intro c member
  rcases List.mem_append.mp member with whole | after
  · exact digit c (tells.whole.digit c whole)
  · rcases List.mem_append.mp after with fraction | exponent
    · unfold fractionText at fraction
      split at fraction
      · cases fraction
      · rcases List.mem_cons.mp fraction with rfl | later
        · rfl
        · exact digit c (tells.fraction c later)
    · cases power : w.exponent with
      | none =>
        rw [power] at exponent
        cases exponent
      | some e =>
        rw [power] at exponent
        rcases List.mem_cons.mp exponent with rfl | later
        · rfl
        · rcases integerChars e c later with plain | rfl
          · exact digit c plain
          · rfl

theorem mark : ∃ c ∈ w.chars, c = '.' ∨ c = 'e' := by
  rcases tells.marked with some | some
  · refine ⟨'.', List.mem_append_right _ (List.mem_append_left _ ?_), .inl rfl⟩
    rw [fractionText, if_neg (by simpa using some)]
    exact List.mem_cons_self
  · obtain ⟨e, power⟩ := Option.isSome_iff_exists.mp some
    refine ⟨'e', List.mem_append_right _ (List.mem_append_right _ ?_), .inr rfl⟩
    rw [power]
    exact List.mem_cons_self

end Written.Tells

end Decimal

namespace Binary64
open Decimal (Written)

def Representable : Binary64 → Prop
  | .finite _ units => units < ceiling ∧ Held units
  | _ => False

instance (x : Binary64) : Decidable x.Representable := by
  cases x <;> unfold Representable <;> infer_instance

variable (layout : Decimal.Layout) (whenNot : String)

theorem textChars (negative : Bool) (units : Nat) : ∃ w : Written, w.Tells (Decimal.shortest units) ∧
    (text layout whenNot (.finite negative units)).toList = (if negative then ['-'] else []) ++ w.chars := by
  obtain ⟨w, chars, tells⟩ := Decimal.textWritten layout (Decimal.shortest units)
  refine ⟨w, tells, ?_⟩
  rw [text, String.toList_append, chars]
  cases negative <;> rfl

theorem textNumeral {x : Binary64} (finite : x.Representable) :
    (∀ c ∈ (x.text layout whenNot).toList, Decimal.numeralChar c = true) ∧
      ∃ c ∈ (x.text layout whenNot).toList, c = '.' ∨ c = 'e' := by
  cases x with
  | finite negative units =>
    obtain ⟨w, tells, chars⟩ := textChars layout whenNot negative units
    rw [chars]
    constructor
    · intro c member
      rcases List.mem_append.mp member with sign | later
      · cases negative with
        | true =>
          rw [List.mem_singleton.mp sign]
          rfl
        | false => cases sign
      · exact tells.numeral c later
    · obtain ⟨c, member, mark⟩ := tells.mark
      exact ⟨c, List.mem_append_right _ member, mark⟩
  | _ => exact finite.elim

variable {layout whenNot}

theorem textOnce {x y : Binary64} (left : x.Representable) (right : y.Representable)
    (same : x.text layout whenNot = y.text layout whenNot) : x = y := by
  cases x with
  | finite negative units =>
    cases y with
    | finite negative' units' =>
      obtain ⟨w, tells, chars⟩ := textChars layout whenNot negative units
      obtain ⟨w', tells', chars'⟩ := textChars layout whenNot negative' units'
      rw [same, chars'] at chars
      have read := tells'.reads negative'
      rw [chars, tells.reads negative] at read
      simp only [Option.some.injEq, Prod.mk.injEq] at read
      obtain ⟨rfl, digits, exponent⟩ := read
      have value : (Decimal.shortest units).value = (Decimal.shortest units').value := by
        rw [← tells.value, ← tells'.value, digits, exponent]
      rw [Decimal.shortestOnce left.2 right.2 value]
    | _ => exact right.elim
  | _ => exact left.elim

end Binary64
end Syllabus
