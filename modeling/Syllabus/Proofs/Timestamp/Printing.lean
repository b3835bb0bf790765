import Mathlib.Data.Rat.Cast.Order
import Mathlib.Tactic.Linarith
import Mathlib.Tactic.Positivity
import Syllabus.Proofs.Timestamp.Reading

/-! The written form of a number of milliseconds reads back as that number. Hours are written when there are any, and
then the minutes have two digits; the fraction goes without the zeros at its end, which its value does not need. -/
namespace Syllabus.Timestamp

def exact (t : Timestamp) : ℚ := t.seconds + (Nat.ofDigitChars 10 t.fraction 0 : ℚ) / 10 ^ t.fraction.length

structure Writes (s : List Char) (n : Nat) : Prop where
  digits : ∀ c ∈ s, c.isDigit = true
  value : Nat.ofDigitChars 10 s 0 = n

theorem writesWhole (n : Nat) : Writes (Nat.toDigits 10 n) n :=
  ⟨fun _ member => Nat.isDigit_of_mem_toDigits (by decide) (by decide) member, Nat.ofDigitChars_ten_toDigits⟩

theorem digitOfChar {n : Nat} (small : n < 10) : n.digitChar.isDigit = true := by simpa [Nat.isDigit_digitChar] using small

theorem writesTwo {n : Nat} (small : n < 100) : Writes (twoDigits n) n := by
  have tens : n / 10 < 10 := by omega
  have ones : n % 10 < 10 := by omega
  constructor
  · simp [twoDigits, digitOfChar tens, digitOfChar ones]
  · rw [twoDigits, Nat.ofDigitChars_cons_digitChar_of_lt_ten tens, Nat.ofDigitChars_cons_digitChar_of_lt_ten ones,
      Nat.ofDigitChars_nil]
    omega

def fractionOf (n : Nat) : List Char :=
  [Nat.digitChar (n / 100), Nat.digitChar (n / 10 % 10), Nat.digitChar (n % 10)].take
    (if n = 0 then 0 else if n % 100 = 0 then 1 else if n % 10 = 0 then 2 else 3)

theorem millisTextFraction (n : Nat) : millisText n = Face.fractionText (fractionOf n) := by
  rw [millisText, fractionOf]
  split
  · rfl
  · split
    · rfl
    · split <;> rfl

theorem fractionDigits {n : Nat} (small : n < 1000) : ∀ c ∈ fractionOf n, c.isDigit = true := by
  intro c member
  have places := List.mem_of_mem_take member
  simp only [List.mem_cons, List.not_mem_nil, or_false] at places
  rcases places with rfl | rfl | rfl <;> exact digitOfChar (by omega)

theorem fractionValue {n : Nat} (small : n < 1000) :
    (Nat.ofDigitChars 10 (fractionOf n) 0 : ℚ) / 10 ^ (fractionOf n).length = n / 1000 := by
  have first : n / 100 < 10 := by omega
  have second : n / 10 % 10 < 10 := by omega
  have third : n % 10 < 10 := by omega
  -- The places that are left out are zeros.
  have scaled : Nat.ofDigitChars 10 (fractionOf n) 0 * 1000 = n * 10 ^ (fractionOf n).length := by
    rw [fractionOf]
    split
    · rename_i whole
      rw [whole]
      rfl
    · split
      · simp only [List.take_succ_cons, List.take_zero, Nat.ofDigitChars_cons_digitChar_of_lt_ten first,
          Nat.ofDigitChars_nil, List.length_cons, List.length_nil]
        omega
      · split
        · simp only [List.take_succ_cons, List.take_zero, Nat.ofDigitChars_cons_digitChar_of_lt_ten first,
            Nat.ofDigitChars_cons_digitChar_of_lt_ten second, Nat.ofDigitChars_nil, List.length_cons, List.length_nil]
          omega
        · simp only [List.take_succ_cons, List.take_zero, Nat.ofDigitChars_cons_digitChar_of_lt_ten first,
            Nat.ofDigitChars_cons_digitChar_of_lt_ten second, Nat.ofDigitChars_cons_digitChar_of_lt_ten third,
            Nat.ofDigitChars_nil, List.length_cons, List.length_nil]
          omega
  rw [div_eq_div_iff (by positivity) (by norm_num)]
  exact_mod_cast scaled

def faceOfMillis (millis : Nat) : Face :=
  let whole := millis / 1000
  let hours := whole / 3600
  let minutes := whole % 3600 / 60
  ⟨if 0 < hours then some (Nat.toDigits 10 hours) else none,
    if 0 < hours then twoDigits minutes else Nat.toDigits 10 minutes, twoDigits (whole % 60), fractionOf (millis % 1000)⟩

theorem ofMillisText (millis : Nat) : ofMillis millis = (faceOfMillis millis).text := by
  rw [ofMillis, millisTextFraction]
  simp only [faceOfMillis]
  split <;> simp [Face.text, Face.fields]

section
variable (millis : Nat)

theorem minutesWritten : Writes (faceOfMillis millis).minutes (millis / 1000 % 3600 / 60) ∧
    ((faceOfMillis millis).minutes.length = 1 ∨ (faceOfMillis millis).minutes.length = 2) := by
  have small : millis / 1000 % 3600 / 60 < 60 := by omega
  simp only [faceOfMillis]
  split
  · exact ⟨writesTwo (by omega), .inr rfl⟩
  · refine ⟨writesWhole _, ?_⟩
    have some := Nat.length_toDigits_pos (b := 10) (n := millis / 1000 % 3600 / 60)
    have short := (Nat.length_toDigits_le_iff (b := 10) (k := 2) (by decide) (by decide)).mpr
      (show millis / 1000 % 3600 / 60 < 10 ^ 2 by omega)
    omega

theorem hoursWritten : (faceOfMillis millis).hours.elim 0 (Nat.ofDigitChars 10 · 0) = millis / 1000 / 3600 ∧
    ∀ s ∈ (faceOfMillis millis).hours, s ≠ [] ∧ Writes s (millis / 1000 / 3600) := by
  simp only [faceOfMillis]
  split
  · refine ⟨(writesWhole _).value, fun s written => ?_⟩
    obtain rfl := Option.some.inj written
    exact ⟨Nat.toDigits_ne_nil, writesWhole _⟩
  · rename_i none
    exact ⟨by simp only [Option.elim_none]; omega, nofun⟩

theorem secondsWritten : Writes (faceOfMillis millis).seconds (millis / 1000 % 60) := writesTwo (by omega)

theorem millisFormed : (faceOfMillis millis).Formed Char.isDigit where
  hours s written := ((hoursWritten millis).2 s written).imp_right Writes.digits
  minutes := ⟨(minutesWritten millis).2, (minutesWritten millis).1.digits⟩
  seconds := ⟨rfl, (secondsWritten millis).digits⟩
  fraction := fractionDigits (Nat.mod_lt _ (by decide))

theorem millisWhole : (faceOfMillis millis).wholeSeconds = millis / 1000 := by
  rw [Face.wholeSeconds, (hoursWritten millis).1, (minutesWritten millis).1.value, (secondsWritten millis).value]
  omega

theorem millisExact : (faceOfMillis millis).time.exact = millis / 1000 := by
  have fraction : (Nat.ofDigitChars 10 (faceOfMillis millis).fraction 0 : ℚ) / 10 ^ (faceOfMillis millis).fraction.length =
      (millis % 1000 : ℕ) / 1000 := fractionValue (Nat.mod_lt _ (by decide))
  have parts : (millis : ℚ) = 1000 * (millis / 1000 : ℕ) + (millis % 1000 : ℕ) := by
    exact_mod_cast (Nat.div_add_mod millis 1000).symm
  simp only [exact, Face.time, millisWhole, fraction]
  linarith

end

theorem millisBounded {millis : Nat} (small : millis < 2 ^ 64) : (faceOfMillis millis).Bounded where
  seconds := by
    rw [(secondsWritten millis).value]
    omega
  minutes _ := by
    rw [(minutesWritten millis).1.value]
    omega
  hours s written := by
    rw [((hoursWritten millis).2 s written).2.value]
    omega
  whole _ := by
    rw [millisWhole]
    omega

theorem faceTrimmed {f : Face} (formed : f.Formed Char.isDigit) : Chars.trim f.text = f.text := by
  refine Chars.trimSolidText fun c member => ?_
  rcases textChars formed member with digit | rfl | rfl
  · exact Text.solidOfDigit digit
  · decide
  · decide

theorem millisRead {millis : Nat} (small : millis < 2 ^ 64) :
    read? (.ofList (ofMillis millis)) = some (faceOfMillis millis).time := by
  rw [read?, String.toList_ofList, ofMillisText, faceTrimmed (millisFormed millis)]
  exact ofCharsIff.mpr ⟨_, rfl, millisFormed millis, millisBounded small, rfl⟩

theorem millisReadBack {millis : Nat} (small : millis < 2 ^ 64) :
    ∃ f : Face, ofMillis millis = f.text ∧ f.Formed Char.isDigit ∧ f.Bounded ∧ f.time.exact = millis / 1000 ∧
      (∀ digits, Counted.read? digits (.ofList (ofMillis millis)) = some (some f.time)) ∧
      ∀ other, ofMillis other = ofMillis millis → other = millis := by
  have formed := millisFormed millis
  refine ⟨faceOfMillis millis, ofMillisText millis, formed, millisBounded small, millisExact millis, fun digits => ?_,
    fun other same => ?_⟩
  · rw [Counted.readAnswers, millisRead small]
  · have faces : faceOfMillis other = faceOfMillis millis :=
      textOnce (by decide) (by decide) (millisFormed other) formed (by rw [← ofMillisText, same, ofMillisText])
    have values := millisExact other
    rw [faces, millisExact millis, div_left_inj' (by norm_num)] at values
    exact_mod_cast values.symm

theorem mostMillisReadBack : mostMillis < 2 ^ 64 ∧ ofMillis mostMillis = "5124095576030:25:51.615".toList ∧
    ∃ f : Face, ofMillis mostMillis = f.text ∧ f.Formed Char.isDigit ∧ f.Bounded ∧ f.time.exact = mostMillis / 1000 ∧
      (∀ digits, Counted.read? digits (.ofList (ofMillis mostMillis)) = some (some f.time)) ∧
      ∀ other, ofMillis other = ofMillis mostMillis → other = mostMillis :=
  ⟨by decide, by decide +kernel, millisReadBack (by decide)⟩

theorem nearestMost (x : Binary64) : nearest x ≤ mostMillis := by
  cases x with
  | finite negative units => exact Nat.min_le_right _ _
  | infinite negative => exact Nat.le_refl mostMillis
  | undefined => exact Nat.le_refl mostMillis

theorem millisMost (x : Binary64) : millis x ≤ mostMillis := by
  cases x with
  | finite negative units =>
    cases negative with
    | true => exact Nat.zero_le _
    | false =>
      rw [millis]
      exact nearestMost _
  | infinite negative =>
    cases negative with
    | true => exact Nat.zero_le _
    | false => exact Nat.le_refl mostMillis
  | undefined => exact Nat.zero_le _

theorem printedReads (x : Binary64) : ∃ t, read? (text x) = some t ∧ t.exact = millis x / 1000 :=
  ⟨_, millisRead (lt_of_le_of_lt (millisMost x) (by decide)), millisExact (millis x)⟩

end Syllabus.Timestamp
