import Mathlib.Tactic.Ring
import Syllabus.Proofs.Timestamp.Face
import Syllabus.Timestamp.Counted

/-! Reading a time takes exactly the written forms whose fields are in range, and counts their whole seconds. Counters of
sixty-four bits read the same: they refuse just the texts that are refused for their size or for digits of another
script, and the sums that are not checked are small on every text. -/
namespace Syllabus.Timestamp

theorem digitValue {c : Char} (digit : c.isDigit = true) : c.toNat - 48 < 10 := by
  simp only [Char.isDigit, Bool.and_eq_true, decide_eq_true_eq, ge_iff_le, UInt32.le_iff_toNat_le] at digit
  have top : c.toNat ≤ 57 := digit.2
  omega

theorem digitsBelow {s : List Char} (digit : ∀ c ∈ s, c.isDigit = true) : Nat.ofDigitChars 10 s 0 < 10 ^ s.length := by
  induction s with
  | nil => simp
  | cons c rest ih =>
    have first := digitValue (digit c List.mem_cons_self)
    have more := ih fun d member => digit d (List.mem_cons_of_mem c member)
    rw [Nat.ofDigitChars_cons, Nat.ofDigitChars_eq_ofDigitChars_zero, List.length_cons, pow_succ']
    calc 10 ^ rest.length * (10 * 0 + (c.toNat - '0'.toNat)) + Nat.ofDigitChars 10 rest 0
      _ < 10 ^ rest.length * (10 * 0 + (c.toNat - '0'.toNat)) + 10 ^ rest.length := by omega
      _ = (c.toNat - 48 + 1) * 10 ^ rest.length := by
        rw [show '0'.toNat = 48 from rfl]
        ring
      _ ≤ 10 * 10 ^ rest.length := Nat.mul_le_mul_right _ first

theorem digitsGrow (s : List Char) (n : Nat) : n ≤ Nat.ofDigitChars 10 s n := by
  rw [Nat.ofDigitChars_eq_ofDigitChars_zero]
  calc n = 1 * n := (Nat.one_mul n).symm
    _ ≤ 10 ^ s.length * n := Nat.mul_le_mul_right n (Nat.one_le_pow _ _ (by decide))
    _ ≤ _ := Nat.le_add_right _ _

namespace Face

def wholeSeconds (f : Face) : Nat :=
  f.hours.elim 0 (Nat.ofDigitChars 10 · 0) * 3600 + Nat.ofDigitChars 10 f.minutes 0 * 60 +
    Nat.ofDigitChars 10 f.seconds 0

structure Bounded (f : Face) : Prop where
  seconds : Nat.ofDigitChars 10 f.seconds 0 < 60
  minutes : f.hours.isSome → Nat.ofDigitChars 10 f.minutes 0 < 60
  hours : ∀ s ∈ f.hours, Nat.ofDigitChars 10 s 0 < 2 ^ 64
  whole : f.hours.isSome → f.wholeSeconds < 2 ^ 64

def time (f : Face) : Timestamp := ⟨f.wholeSeconds, f.fraction⟩

theorem Formed.short {f : Face} (formed : f.Formed Char.isDigit) :
    Nat.ofDigitChars 10 f.minutes 0 < 100 ∧ Nat.ofDigitChars 10 f.seconds 0 < 100 := by
  have minutes := digitsBelow formed.minutes.2
  have seconds := digitsBelow formed.seconds.2
  rw [formed.seconds.1] at seconds
  refine ⟨?_, seconds⟩
  have short : f.minutes.length ≤ 2 := by
    have lengths := formed.minutes.1
    omega
  calc Nat.ofDigitChars 10 f.minutes 0 < 10 ^ f.minutes.length := minutes
    _ ≤ 10 ^ 2 := Nat.pow_le_pow_right (by decide) short

theorem Bounded.fits {f : Face} (bounded : f.Bounded) (formed : f.Formed Char.isDigit) : f.wholeSeconds < 2 ^ 64 := by
  cases hours : f.hours with
  | none =>
    have short := formed.short
    simp only [wholeSeconds, hours, Option.elim_none]
    omega
  | some s => exact bounded.whole (by rw [hours]; rfl)

end Face

theorem ofFaceIff {f : Face} (formed : f.Formed Char.isDigit) {t : Timestamp} :
    ofFace? f = some t ↔ f.Bounded ∧ t = f.time := by
  have whole : f.hours.elim 0 number * 3600 + (number f.minutes * 60 + number f.seconds) = f.wholeSeconds := by
    rw [Face.wholeSeconds, Nat.add_assoc]
    rfl
  have bounds : (number f.seconds < 60 ∧ (f.hours.isSome → number f.minutes < 60) ∧
      f.hours.elim 0 number < secondLimit ∧ f.wholeSeconds < secondLimit) ↔ f.Bounded := by
    constructor
    · intro checks
      obtain ⟨seconds, minutes, hours, total⟩ := checks
      refine ⟨seconds, minutes, fun s written => ?_, fun _ => total⟩
      rw [show f.hours = some s from written] at hours
      exact hours
    · intro bounded
      refine ⟨bounded.seconds, bounded.minutes, ?_, bounded.fits formed⟩
      cases hours : f.hours with
      | none => decide
      | some s => exact bounded.hours s hours
  rw [ofFace?, whole]
  split
  · rename_i checks
    have bounded := bounds.mp checks
    simp [bounded, Face.time, eq_comm]
  · rename_i fails
    have unbounded : ¬f.Bounded := fun bounded => fails (bounds.mpr bounded)
    simp [unbounded]

theorem ofCharsIff {s : List Char} {t : Timestamp} :
    ofChars? s = some t ↔ ∃ f : Face, s = f.text ∧ f.Formed Char.isDigit ∧ f.Bounded ∧ t = f.time := by
  rw [ofChars?, Option.bind_eq_some_iff]
  constructor
  · intro read
    obtain ⟨f, shown, made⟩ := read
    obtain ⟨written, formed⟩ := (faceOfIff (by decide) (by decide)).mp shown
    exact ⟨f, written, formed, (ofFaceIff formed).mp made⟩
  · intro written
    obtain ⟨f, written, formed, shows⟩ := written
    exact ⟨f, (faceOfIff (by decide) (by decide)).mpr ⟨written, formed⟩, (ofFaceIff formed).mpr shows⟩

namespace Counted

theorem productSome {a b c : UInt64} : product? a b = some c ↔ a.toNat * b.toNat = c.toNat := by
  rw [product?]
  constructor
  · intro held
    split at held
    · rename_i small
      obtain rfl : a * b = c := by simpa using held
      rw [UInt64.toNat_mul, Nat.mod_eq_of_lt small]
    · cases held
  · intro same
    have small : a.toNat * b.toNat < UInt64.size := same ▸ c.toNat_lt_size
    have exact : a * b = c := UInt64.toNat_inj.mp (by rw [UInt64.toNat_mul, Nat.mod_eq_of_lt small, same])
    rw [if_pos small, exact]

theorem sumSome {a b c : UInt64} : sum? a b = some c ↔ a.toNat + b.toNat = c.toNat := by
  rw [sum?]
  constructor
  · intro held
    split at held
    · rename_i small
      obtain rfl : a + b = c := by simpa using held
      rw [UInt64.toNat_add, Nat.mod_eq_of_lt small]
    · cases held
  · intro same
    have small : a.toNat + b.toNat < UInt64.size := same ▸ c.toNat_lt_size
    have exact : a + b = c := UInt64.toNat_inj.mp (by rw [UInt64.toNat_add, Nat.mod_eq_of_lt small, same])
    rw [if_pos small, exact]

theorem pushSome {n m : UInt64} {c : Char} :
    push? n c = some m ↔ c.isDigit = true ∧ 10 * n.toNat + (c.toNat - 48) = m.toNat := by
  rw [push?]
  split
  · rename_i digit
    have value : (UInt64.ofNat (c.toNat - 48)).toNat = c.toNat - 48 :=
      UInt64.toNat_ofNat_of_lt' (lt_trans (digitValue digit) (by decide))
    simp only [Option.bind_eq_bind, Option.bind_eq_some_iff, productSome, sumSome, value, digit, true_and]
    constructor
    · intro steps
      obtain ⟨tens, ten, sum⟩ := steps
      rw [← sum, ← ten]
      rfl
    · intro same
      have small : 10 * n.toNat < UInt64.size := lt_of_le_of_lt (Nat.le_add_right _ _) (same ▸ m.toNat_lt_size)
      refine ⟨.ofNat (10 * n.toNat), ?_, ?_⟩ <;> rw [UInt64.toNat_ofNat_of_lt' small]
      · rfl
      · exact same
  · rename_i other
    simp [other]

theorem runSome {s : List Char} {n m : UInt64} :
    s.foldlM push? n = some m ↔ (∀ c ∈ s, c.isDigit = true) ∧ Nat.ofDigitChars 10 s n.toNat = m.toNat := by
  induction s generalizing n with
  | nil => simp [UInt64.toNat_inj]
  | cons c rest ih =>
    rw [List.foldlM_cons, Option.bind_eq_bind, Option.bind_eq_some_iff]
    simp only [pushSome, ih, List.forall_mem_cons, Nat.ofDigitChars_cons]
    constructor
    · intro steps
      obtain ⟨next, ⟨digit, value⟩, digits, total⟩ := steps
      exact ⟨⟨digit, digits⟩, by rw [← total, ← value]; rfl⟩
    · intro read
      obtain ⟨⟨digit, digits⟩, total⟩ := read
      -- What is counted so far is at most the whole.
      have small : 10 * n.toNat + (c.toNat - 48) < UInt64.size :=
        lt_of_le_of_lt (digitsGrow rest _) (total ▸ m.toNat_lt_size)
      have value := UInt64.toNat_ofNat_of_lt' small
      exact ⟨.ofNat (10 * n.toNat + (c.toNat - 48)), ⟨digit, value.symm⟩, digits, by rw [value]; exact total⟩

theorem counterSome {s : List Char} {n : UInt64} :
    counter? s = some n ↔ (∀ c ∈ s, c.isDigit = true) ∧ Nat.ofDigitChars 10 s 0 = n.toNat := runSome

theorem counterSmall {s : List Char} (digits : ∀ c ∈ s, c.isDigit = true) (small : Nat.ofDigitChars 10 s 0 < UInt64.size) :
    ∃ n, counter? s = some n ∧ n.toNat = Nat.ofDigitChars 10 s 0 :=
  ⟨.ofNat _, counterSome.mpr ⟨digits, (UInt64.toNat_ofNat_of_lt' small).symm⟩, UInt64.toNat_ofNat_of_lt' small⟩

theorem productSmall {a b : UInt64} (small : a.toNat * b.toNat < UInt64.size) :
    ∃ c, product? a b = some c ∧ c.toNat = a.toNat * b.toNat :=
  ⟨.ofNat _, productSome.mpr (UInt64.toNat_ofNat_of_lt' small).symm, UInt64.toNat_ofNat_of_lt' small⟩

theorem sumSmall {a b : UInt64} (small : a.toNat + b.toNat < UInt64.size) :
    ∃ c, sum? a b = some c ∧ c.toNat = a.toNat + b.toNat :=
  ⟨.ofNat _, sumSome.mpr (UInt64.toNat_ofNat_of_lt' small).symm, UInt64.toNat_ofNat_of_lt' small⟩

theorem wholeSecondsAnswers (hours : UInt64) {minutes seconds : UInt64} (short : minutes.toNat < 100)
    (low : seconds.toNat < 100) : ∃ whole, wholeSeconds? hours minutes seconds = some whole ∧
      ∀ w, whole = some w ↔ hours.toNat * 3600 + minutes.toNat * 60 + seconds.toNat = w.toNat := by
  have sixty : (60 : UInt64).toNat = 60 := rfl
  have hourly : (3600 : UInt64).toNat = 3600 := rfl
  have size : UInt64.size = 18446744073709551616 := rfl
  rw [wholeSeconds?]
  cases inHours : product? hours 3600 with
  | none =>
    refine ⟨none, rfl, fun w => ⟨nofun, fun total => ?_⟩⟩
    have most := w.toNat_lt_size
    obtain ⟨_, held, _⟩ := productSmall (a := hours) (b := 3600) (by rw [hourly]; omega)
    rw [inHours] at held
    cases held
  | some whole =>
    obtain ⟨inMinutes, ten, minutely⟩ := productSmall (a := minutes) (b := 60) (by rw [sixty]; omega)
    rw [sixty] at minutely
    obtain ⟨rest, sum, value⟩ := sumSmall (a := inMinutes) (b := seconds) (by omega)
    have high := productSome.mp inHours
    refine ⟨sum? whole rest, by simp [ten, sum], fun w => ?_⟩
    rw [sumSome, value, minutely, ← high, hourly, Nat.add_assoc]

theorem hoursSome {hours : Option (List Char)} {n : UInt64} : hours.elim (some 0) counter? = some n ↔
    (∀ s ∈ hours, ∀ c ∈ s, c.isDigit = true) ∧ hours.elim 0 (Nat.ofDigitChars 10 · 0) = n.toNat := by
  cases hours with
  | none => simp [← UInt64.toNat_inj]
  | some s => simp [counterSome]

theorem unboundedRefused {f : Face} (plain : f.Formed Char.isDigit) (unbounded : ¬f.Bounded) :
    Timestamp.ofFace? f = none :=
  Option.eq_none_iff_forall_ne_some.mpr fun _ shows => unbounded ((ofFaceIff plain).mp shows).1

theorem boundedHours {f : Face} (plain : f.Formed Char.isDigit) (bounded : f.Bounded) :
    ∃ n, f.hours.elim (some 0) counter? = some n := by
  cases given : f.hours with
  | none => exact ⟨0, rfl⟩
  | some s =>
    obtain ⟨n, read, _⟩ := counterSmall (plain.hours s given).2 (bounded.hours s given)
    exact ⟨n, read⟩

theorem wholeDecides {f : Face} (plain : f.Formed Char.isDigit) (seconds : Nat.ofDigitChars 10 f.seconds 0 < 60)
    (minutes : f.hours.isSome → Nat.ofDigitChars 10 f.minutes 0 < 60)
    (hours : ∀ s ∈ f.hours, Nat.ofDigitChars 10 s 0 < 2 ^ 64) {whole : Option UInt64}
    (total : ∀ w, whole = some w ↔ f.wholeSeconds = w.toNat) :
    whole.map (fun w => ⟨w.toNat, f.fraction⟩) = Timestamp.ofFace? f := by
  refine Option.ext fun t => ?_
  simp only [Option.map_eq_some_iff, ofFaceIff plain, total]
  constructor
  · intro counted
    obtain ⟨w, same, rfl⟩ := counted
    exact ⟨⟨seconds, minutes, hours, fun _ => same ▸ w.toNat_lt⟩, by rw [← same]; rfl⟩
  · intro shows
    obtain ⟨bounded, rfl⟩ := shows
    have value := UInt64.toNat_ofNat_of_lt' (bounded.fits plain)
    exact ⟨.ofNat f.wholeSeconds, value.symm, by rw [value]; rfl⟩

theorem ofPlainAnswers {f : Face} (plain : f.Formed Char.isDigit) : ofFace? f = some (Timestamp.ofFace? f) := by
  have short := plain.short
  have size : UInt64.size = 18446744073709551616 := rfl
  obtain ⟨minutes, readMinutes, minuteValue⟩ := counterSmall plain.minutes.2 (by omega)
  obtain ⟨seconds, readSeconds, secondValue⟩ := counterSmall plain.seconds.2 (by omega)
  rw [ofFace?, readMinutes, readSeconds]
  cases readHours : f.hours.elim (some 0) counter? with
  | none =>
    have unbounded : ¬f.Bounded := by
      intro bounded
      obtain ⟨n, read⟩ := boundedHours plain bounded
      rw [read] at readHours
      cases readHours
    rw [unboundedRefused plain unbounded]
  | some hours =>
    have hourValue := (hoursSome.mp readHours).2
    have digits : f.fraction.all Char.isDigit = true := List.all_eq_true.mpr plain.fraction
    simp only [UInt64.le_iff_toNat_le, minuteValue, secondValue, digits, Bool.true_eq_false, or_false]
    split
    · rename_i outside
      have unbounded : ¬f.Bounded := by
        intro bounded
        rcases outside with late | ⟨given, late⟩
        · exact absurd bounded.seconds (Nat.not_lt.mpr late)
        · exact absurd (bounded.minutes given) (Nat.not_lt.mpr late)
      rw [unboundedRefused plain unbounded]
    · rename_i inside
      simp only [not_or, not_and, Nat.not_le] at inside
      obtain ⟨whole, answer, value⟩ := wholeSecondsAnswers hours (minuteValue ▸ short.1) (secondValue ▸ short.2)
      have total : ∀ w, whole = some w ↔ f.wholeSeconds = w.toNat := by
        intro w
        rw [value, ← hourValue, minuteValue, secondValue, Face.wholeSeconds]
      have held : ∀ s ∈ f.hours, Nat.ofDigitChars 10 s 0 < 2 ^ 64 := by
        intro s written
        rw [show f.hours = some s from written] at hourValue
        exact lt_of_eq_of_lt hourValue hours.toNat_lt
      rw [answer, ← wholeDecides plain inside.1 inside.2 held total]
      rfl

theorem ofForeignAnswers {digit : Char → Bool} {f : Face} (formed : f.Formed digit)
    (foreign : ¬f.Formed Char.isDigit) : ofFace? f = some none := by
  rw [ofFace?]
  split
  · rename_i hours minutes seconds readHours readMinutes readSeconds
    have fraction : f.fraction.all Char.isDigit = false := by
      refine Bool.eq_false_iff.mpr fun digits => foreign ?_
      exact ⟨fun s written => ⟨(formed.hours s written).1, (hoursSome.mp readHours).1 s written⟩,
        ⟨formed.minutes.1, (counterSome.mp readMinutes).1⟩, ⟨formed.seconds.1, (counterSome.mp readSeconds).1⟩,
        List.all_eq_true.mp digits⟩
    exact if_pos (.inr (.inr fraction))
  · rfl

theorem ofCharsAnswers (digits : DigitClass) (s : List Char) : ofChars? digits s = some (Timestamp.ofChars? s) := by
  have wide : ∀ f, faceOf? digits.has s = some f ↔ s = f.text ∧ f.Formed digits.has :=
    fun f => faceOfIff digits.colon digits.point
  have plain : ∀ f, face? s = some f ↔ s = f.text ∧ f.Formed Char.isDigit := fun f => faceOfIff (by decide) (by decide)
  rw [ofChars?, Timestamp.ofChars?]
  cases shown : faceOf? digits.has s with
  | none =>
    have none : face? s = none := by
      refine Option.eq_none_iff_forall_ne_some.mpr fun f found => ?_
      obtain ⟨written, formed⟩ := (plain f).mp found
      rw [(wide f).mpr ⟨written, formed.mono digits.ascii⟩] at shown
      cases shown
    rw [none]
    rfl
  | some f =>
    obtain ⟨written, formed⟩ := (wide f).mp shown
    by_cases ascii : f.Formed Char.isDigit
    · rw [(plain f).mpr ⟨written, ascii⟩]
      exact ofPlainAnswers ascii
    · have none : face? s = none := by
        refine Option.eq_none_iff_forall_ne_some.mpr fun g found => ?_
        obtain ⟨other, formed'⟩ := (plain g).mp found
        rw [(wide g).mpr ⟨other, formed'.mono digits.ascii⟩] at shown
        cases shown
        exact ascii formed'
      rw [none]
      exact ofForeignAnswers formed ascii

theorem readAnswers (digits : DigitClass) (text : String) : read? digits text = some (Timestamp.read? text) :=
  ofCharsAnswers digits _

end Counted

theorem readExactly (digits : DigitClass) (text : String) :
    Counted.read? digits text = some (read? text) ∧
    ∀ t, read? text = some t ↔
      ∃ f : Face, Chars.trim text.toList = f.text ∧ f.Formed Char.isDigit ∧ f.Bounded ∧ t = f.time :=
  ⟨Counted.readAnswers digits text, fun _ => ofCharsIff⟩

example : (faceOf? Text.isDecimal "\u0661:\u0663\u0660".toList).isSome = true ∧
    Counted.read? .decimal "\u0661:\u0663\u0660" = some none := by decide

end Syllabus.Timestamp
