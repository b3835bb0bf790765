import Mathlib.Data.Nat.Log
import Mathlib.Data.Rat.Cast.Order
import Mathlib.Tactic.Linarith
import Mathlib.Tactic.Positivity
import Mathlib.Tactic.Ring
import Syllabus.Number.Shortest

/-! The shortest decimal of a number tells the number. It lies in the interval of what rounds to the number, as the
grid of seventeen digits has a point there at the latest; and the intervals of two numbers have no point in common,
where they touch at an end as only one of them, the even one, has its ends. -/
namespace Syllabus

namespace Binary64

/-- A magnitude that the format has: a multiple of the distance to its neighbours. -/
def Held (units : Nat) : Prop := gap units ∣ units

instance (units : Nat) : Decidable (Held units) := by unfold Held; infer_instance

theorem gapPos (units : Nat) : 0 < gap units := Nat.pow_pos (by decide)

theorem gapBounds {units : Nat} (positive : 0 < units) :
    units < 2 ^ 53 * gap units ∧ (gap units ≠ 1 → 2 ^ 52 * gap units ≤ units) := by
  have below := Nat.log2_self_le positive.ne'
  have above : units < 2 ^ (units.log2 + 1) := Nat.lt_log2_self
  have gapEq : gap units = 2 ^ (units.log2 + 1 - 53) := rfl
  rcases Nat.lt_or_ge units.log2 53 with small | large
  · have step : gap units = 1 := by rw [gapEq, Nat.sub_eq_zero_of_le small, pow_zero]
    refine ⟨?_, fun other => absurd step other⟩
    calc units < 2 ^ (units.log2 + 1) := above
      _ ≤ 2 ^ 53 := Nat.pow_le_pow_right (by decide) small
      _ = 2 ^ 53 * gap units := by rw [step, mul_one]
  · obtain ⟨more, size⟩ := Nat.exists_eq_add_of_le large
    have step : gap units = 2 ^ (more + 1) := by rw [gapEq, size]; congr 1; omega
    rw [size] at below above
    constructor
    · rwa [step, ← pow_add, ← add_assoc]
    · intro _
      rw [step, ← pow_add]
      convert below using 2
      omega

theorem gapGrows {units units' : Nat} (ordered : units ≤ units') : gap units = gap units' ∨ 2 * gap units ≤ gap units' := by
  have logs : units.log2 ≤ units'.log2 := by
    rw [Nat.log2_eq_log_two, Nat.log2_eq_log_two]
    exact Nat.log_mono_right ordered
  have gapEq (units : Nat) : gap units = 2 ^ (units.log2 + 1 - 53) := rfl
  rw [gapEq, gapEq]
  rcases (Nat.sub_le_sub_right (Nat.add_le_add_right logs 1) 53).eq_or_lt with same | less
  · exact .inl (by rw [same])
  · right
    rw [mul_comm, ← pow_succ]
    exact Nat.pow_le_pow_right (by decide) less

end Binary64

namespace Decimal
open Binary64 (gap gapPos gapBounds gapGrows Held)

def Interval.Has (i : Interval) (x : ℚ) : Prop :=
  if i.closed then (i.low : ℚ) ≤ x ∧ x ≤ i.high else (i.low : ℚ) < x ∧ x < i.high

theorem Interval.Has.within {i : Interval} {x : ℚ} (has : i.Has x) : (i.low : ℚ) ≤ x ∧ x ≤ i.high := by
  unfold Has at has
  split at has
  · exact has
  · exact ⟨has.1.le, has.2.le⟩

def below (units : Nat) : Nat :=
  if gap units ≠ 1 ∧ units / gap units = 2 ^ 52 then gap units else 2 * gap units

theorem intervalEq (units : Nat) : interval units =
    ⟨4 * units - below units, 4 * units, 4 * units + 2 * gap units, units / gap units % 2 == 0⟩ := rfl

theorem belowLe {units : Nat} (positive : 0 < units) : below units ≤ 2 * gap units ∧ below units < 4 * units := by
  have bounds := gapBounds positive
  unfold below
  have step : gap units = 1 ∨ gap units ≤ units := by
    by_cases one : gap units = 1
    · exact .inl one
    · right
      have := bounds.2 one
      omega
  split <;> omega

theorem heldMantissa {units : Nat} (held : Held units) : ∃ m, units / gap units = m ∧ units = m * gap units :=
  ⟨_, rfl, (Nat.div_mul_cancel held).symm⟩

def Apart (units units' : Nat) : Prop :=
  (interval units).high < (interval units').low ∨
    (interval units).high = (interval units').low ∧ ¬((interval units).closed = true ∧ (interval units').closed = true)

section Apart

variable {units units' : Nat} (positive : 0 < units) (less : units < units') (held : Held units) (held' : Held units')
include positive less held held'

theorem apartOfSame (same : gap units = gap units') : Apart units units' := by
  have bounds := gapBounds positive
  have step := gapPos units
  obtain ⟨m, mantissa, whole⟩ := heldMantissa held
  obtain ⟨m', mantissa', whole'⟩ := heldMantissa held'
  rw [Apart, intervalEq, intervalEq, mantissa, mantissa']
  dsimp only
  rw [below, mantissa']
  rw [← same] at whole' ⊢
  have next : m < m' := by
    rw [whole, whole'] at less
    exact Nat.lt_of_mul_lt_mul_right less
  obtain ⟨more, rfl⟩ := Nat.exists_eq_add_of_lt next
  have apart : units' = units + gap units * more + gap units := by
    rw [whole', Nat.succ_mul, Nat.add_mul, ← whole, mul_comm more]
  have inner : ¬(gap units ≠ 1 ∧ m + more + 1 = 2 ^ 52) := by
    rintro ⟨normal, boundary⟩
    have := bounds.2 normal
    rw [whole', boundary] at less
    omega
  rw [if_neg inner]
  rcases Nat.eq_zero_or_pos more with rfl | further
  · right
    simp only [beq_iff_eq]
    omega
  · left
    have := Nat.le_mul_of_pos_right (gap units) further
    omega

theorem apartOfWider (wider : 2 * gap units ≤ gap units') : Apart units units' := by
  have bounds := gapBounds positive
  have bounds' := gapBounds (positive.trans less)
  have step := gapPos units
  obtain ⟨m, mantissa, whole⟩ := heldMantissa held
  obtain ⟨m', mantissa', whole'⟩ := heldMantissa held'
  rw [Apart, intervalEq, intervalEq, mantissa, mantissa']
  dsimp only
  rw [below, mantissa']
  have count : m + 1 ≤ 2 ^ 53 := by
    have : m * gap units < 2 ^ 53 * gap units := by
      rw [← whole]
      exact bounds.1
    exact Nat.lt_of_mul_lt_mul_right this
  have top : units + gap units = (m + 1) * gap units := by
    rw [Nat.succ_mul, ← whole]
  have limit : (m + 1) * gap units ≤ 2 ^ 53 * gap units := Nat.mul_le_mul_right _ count
  have normal := bounds'.2 (by omega)
  split
  · rename_i boundary
    rw [boundary.2] at whole'
    rcases count.eq_or_lt with odd | inside
    · rw [odd] at top
      rcases wider.eq_or_lt with double | gap
      · right
        simp only [beq_iff_eq]
        omega
      · left
        omega
    · left
      have := Nat.mul_lt_mul_of_pos_right inside step
      omega
  · rename_i inner
    have next : 2 ^ 52 + 1 ≤ m' := by
      have low : 2 ^ 52 ≤ m' := by
        have : 2 ^ 52 * gap units' ≤ m' * gap units' := by
          rw [← whole']
          exact normal
        exact Nat.le_of_mul_le_mul_right this (by omega)
      have other : m' ≠ 2 ^ 52 := fun boundary => inner ⟨by omega, boundary⟩
      omega
    have far : (2 ^ 52 + 1) * gap units' ≤ m' * gap units' := Nat.mul_le_mul_right _ next
    rw [← whole'] at far
    left
    omega

theorem intervalsApart : Apart units units' := by
  rcases gapGrows less.le with same | wider
  · exact apartOfSame positive less held held' same
  · exact apartOfWider positive less held held' wider

end Apart

theorem notBoth {units units' : Nat} (apart : Apart units units') {x : ℚ} (has : (interval units).Has x) :
    ¬(interval units').Has x := by
  intro has'
  rcases apart with less | ⟨touch, ends⟩
  · have : ((interval units).high : ℚ) < (interval units').low := by exact_mod_cast less
    have := has.within.2
    have := has'.within.1
    linarith
  · have touch : ((interval units).high : ℚ) = (interval units').low := by exact_mod_cast touch
    unfold Interval.Has at has has'
    by_cases closed : (interval units).closed = true
    · rw [if_pos closed] at has
      rw [if_neg fun closed' => ends ⟨closed, closed'⟩] at has'
      linarith [has.2, has'.1]
    · rw [if_neg closed] at has
      have := has.2
      split at has' <;> linarith [has'.1]

theorem intervalOnce {units units' : Nat} (positive : 0 < units) (positive' : 0 < units') (held : Held units)
    (held' : Held units') {x : ℚ} (has : (interval units).Has x) (has' : (interval units').Has x) : units = units' := by
  rcases Nat.lt_trichotomy units units' with less | same | more
  · exact absurd has' (notBoth (intervalsApart positive less held held') has)
  · exact same
  · exact absurd has (notBoth (intervalsApart positive' more held' held) has')

def value (d : Decimal) : ℚ := d.digits * 10 ^ d.exponent

def step (exponent : Int) : ℚ := 10 ^ exponent * quarters

theorem quartersPos : 0 < quarters := by
  -- Over a variable, so that the power is not computed.
  have powers (n : Nat) : 0 < Nat.pow 2 n := Nat.two_pow_pos n
  have one : 0 < Binary64.one := by
    delta Binary64.one
    apply powers
  exact Nat.mul_pos four_pos one

theorem stepPos (exponent : Int) : 0 < step exponent := by
  have : (0 : ℚ) < quarters := by exact_mod_cast quartersPos
  exact mul_pos (zpow_pos (by norm_num) _) this

theorem scalesStep (exponent : Int) :
    0 < (scales exponent).1 ∧ ((scales exponent).2 : ℚ) = step exponent * (scales exponent).1 := by
  cases exponent with
  | ofNat e =>
    refine ⟨Nat.one_pos, ?_⟩
    simp only [scales, step, Int.ofNat_eq_natCast, zpow_natCast, Nat.pow_eq, Nat.cast_mul, Nat.cast_pow, Nat.cast_ofNat,
      Nat.cast_one, mul_one]
    exact mul_comm _ _
  | negSucc e =>
    refine ⟨Nat.pow_pos (by decide), ?_⟩
    have : (10 : ℚ) ^ (e + 1) ≠ 0 := by positivity
    simp only [scales, step, zpow_negSucc, Nat.pow_eq, Nat.cast_pow, Nat.cast_ofNat]
    rw [mul_right_comm, inv_mul_cancel₀ this, one_mul]

section Scales

variable (exponent : Int) (a n : Nat)

theorem scaleLe : a * (scales exponent).1 ≤ n * (scales exponent).2 ↔ (a : ℚ) ≤ n * step exponent := by
  obtain ⟨positive, same⟩ := scalesStep exponent
  have positive : (0 : ℚ) < (scales exponent).1 := by exact_mod_cast positive
  rw [← Nat.cast_le (α := ℚ), Nat.cast_mul, Nat.cast_mul, same, ← mul_assoc, mul_le_mul_iff_left₀ positive]

theorem scaleGe : n * (scales exponent).2 ≤ a * (scales exponent).1 ↔ n * step exponent ≤ (a : ℚ) := by
  obtain ⟨positive, same⟩ := scalesStep exponent
  have positive : (0 : ℚ) < (scales exponent).1 := by exact_mod_cast positive
  rw [← Nat.cast_le (α := ℚ), Nat.cast_mul, Nat.cast_mul, same, ← mul_assoc, mul_le_mul_iff_left₀ positive]

end Scales

theorem holdsIff (i : Interval) (exponent : Int) (n : Nat) :
    holds i (scales exponent) n = true ↔ i.Has (n * step exponent) := by
  unfold holds Interval.Has
  cases i.closed with
  | true => simp only [if_true, Bool.and_eq_true, decide_eq_true_eq, scaleLe, scaleGe]
  | false =>
    simp only [Bool.false_eq_true, if_false, Bool.and_eq_true, decide_eq_true_eq]
    rw [← not_le, ← not_le, scaleLe, scaleGe, not_le, not_le]

theorem onGridHas {i : Interval} {exponent : Int} {n : Nat} (found : onGrid? i exponent = some n) :
    i.Has (n * step exponent) := by
  rw [← holdsIff]
  unfold onGrid? at found
  dsimp only at found
  generalize i.mid * (scales exponent).1 / (scales exponent).2 = low at found
  cases lower : holds i (scales exponent) low <;> cases upper : holds i (scales exponent) (low + 1) <;>
    simp only [lower, upper] at found
  · cases found
  · cases found
    exact upper
  · cases found
    exact lower
  · cases found
    split
    · exact lower
    · exact upper

theorem onGridSome {i : Interval} {exponent : Int} {low : Nat}
    (lower : low = i.mid * (scales exponent).1 / (scales exponent).2)
    (either : i.Has (low * step exponent) ∨ i.Has ((low + 1 : Nat) * step exponent)) : (onGrid? i exponent).isSome = true := by
  rw [← holdsIff, ← holdsIff] at either
  unfold onGrid?
  dsimp only
  rw [← lower]
  rcases either with here | next
  · rw [here]
    cases holds i (scales exponent) (low + 1) <;> rfl
  · rw [next]
    cases holds i (scales exponent) low <;> rfl

theorem dropZerosValue (digits : Nat) (exponent : Int) : (dropZeros digits exponent).value = digits * 10 ^ exponent := by
  induction digits, exponent using dropZeros.induct with
  | case1 digits exponent more ih =>
    rw [dropZeros, dif_pos more, ih, zpow_add_one₀ (by norm_num)]
    have whole : (digits : ℚ) = (digits / 10 : Nat) * 10 := by
      exact_mod_cast (Nat.div_mul_cancel (Nat.dvd_of_mod_eq_zero more.2)).symm
    rw [whole]
    ring
  | case2 digits exponent done => rw [dropZeros, dif_neg done, value]

theorem searchHas {i : Interval} {top : Int} (last : (onGrid? i (top - 16)).isSome = true) (left : Nat) :
    i.Has ((search i top (left + 1)).value * quarters) := by
  induction left with
  | zero =>
    obtain ⟨n, found⟩ := Option.isSome_iff_exists.mp last
    have found' : onGrid? i (top - (16 - (0 : Nat) : Int)) = some n := by simpa using found
    rw [search]
    simp only [found', dropZerosValue, mul_assoc]
    exact onGridHas found'
  | succ left ih =>
    rw [search]
    split
    · rename_i n found
      rw [dropZerosValue, mul_assoc]
      exact onGridHas found
    · exact ih

theorem digitCountBounds {n : Nat} (positive : 0 < n) :
    10 ^ (Binary64.digitCount n - 1) ≤ n ∧ n < 10 ^ Binary64.digitCount n := by
  have some : 0 < Binary64.digitCount n := List.length_pos_of_ne_nil Nat.toDigits_ne_nil
  constructor
  · rcases Nat.eq_zero_or_pos (Binary64.digitCount n - 1) with none | more
    · rwa [none, pow_zero]
    · by_contra short
      have := (Nat.length_toDigits_le_iff (by decide) more).mpr (not_le.mp short)
      unfold Binary64.digitCount at *
      omega
  · exact (Nat.length_toDigits_le_iff (by decide) some).mp le_rfl

theorem leadingLe {num den : Nat} (positive : 0 < num) (positive' : 0 < den) :
    (10 : ℚ) ^ leading num den * den ≤ num := by
  unfold leading
  split
  · rename_i large
    have digits := (digitCountBounds (Nat.div_pos large positive')).1
    have some : 0 < Binary64.digitCount (num / den) := List.length_pos_of_ne_nil Nat.toDigits_ne_nil
    have exponent : ((Binary64.digitCount (num / den) : Int) - 1) = ((Binary64.digitCount (num / den) - 1 : Nat) : Int) := by
      omega
    rw [exponent, zpow_natCast]
    exact_mod_cast (Nat.mul_le_mul_right den digits).trans (Nat.div_mul_le_self num den)
  · rename_i small
    have digits := (digitCountBounds (Nat.div_pos (not_le.mp small).le positive)).2
    have some : 0 < Binary64.digitCount (den / num) := List.length_pos_of_ne_nil Nat.toDigits_ne_nil
    generalize Binary64.digitCount (den / num) = places at digits some
    dsimp only
    have lower (n : Nat) (reached : den ≤ num * 10 ^ n) : (10 : ℚ) ^ (-(n : Int)) * den ≤ num := by
      rw [zpow_neg, zpow_natCast, inv_mul_le_iff₀ (by positivity), mul_comm]
      exact_mod_cast reached
    split
    · rename_i reached
      have exponent : -((places : Int) - 1) = -((places - 1 : Nat) : Int) := by omega
      rw [exponent]
      exact lower (places - 1) reached
    · refine lower places ?_
      have := Nat.lt_mul_div_succ den positive
      exact this.le.trans (Nat.mul_le_mul_left num digits)

theorem Interval.hasInner {i : Interval} {x : ℚ} (above : (i.low : ℚ) < x) (under : x < i.high) : i.Has x := by
  unfold Has
  split
  · exact ⟨above.le, under.le⟩
  · exact ⟨above, under⟩

theorem neighbours (middle : Nat) (exponent : Int) :
    let low := middle * (scales exponent).1 / (scales exponent).2
    low * step exponent ≤ middle ∧ middle < (low + 1 : Nat) * step exponent := by
  obtain ⟨positive, same⟩ := scalesStep exponent
  have positive' : 0 < (scales exponent).2 := by
    have : (0 : ℚ) < (scales exponent).2 := by
      rw [same]
      exact mul_pos (stepPos exponent) (by exact_mod_cast positive)
    exact_mod_cast this
  dsimp only
  rw [← scaleGe, ← not_le, ← scaleGe, not_le]
  refine ⟨Nat.div_mul_le_self .., ?_⟩
  rw [mul_comm (_ + 1)]
  exact Nat.lt_mul_div_succ _ positive'

theorem gridFine {units : Nat} (positive : 0 < units) (held : Held units) {h : ℚ} (fine : h * 10 ^ 16 ≤ 4 * units) :
    h < 2 * gap units + below units := by
  have gapSome : (0 : ℚ) < gap units := by exact_mod_cast gapPos units
  unfold below
  split
  · rename_i boundary
    obtain ⟨m, mantissa, whole⟩ := heldMantissa held
    rw [boundary.2] at mantissa
    rw [← mantissa] at whole
    have whole : (units : ℚ) = 2 ^ 52 * gap units := by exact_mod_cast whole
    rw [whole] at fine
    linarith
  · have bound : (units : ℚ) < 2 ^ 53 * gap units := by exact_mod_cast (gapBounds positive).1
    push_cast
    linarith

theorem gridReached {units : Nat} (positive : 0 < units) (held : Held units) :
    (onGrid? (interval units) (leading (4 * units) quarters - 16)).isSome = true := by
  have fine : step (leading (4 * units) quarters - 16) * 10 ^ 16 ≤ 4 * units := by
    have leads := leadingLe (Nat.mul_pos four_pos positive) quartersPos
    rw [step, zpow_sub₀ (by norm_num)]
    generalize quarters = q at leads
    push_cast at leads
    norm_num at leads ⊢
    linarith
  generalize leading (4 * units) quarters - 16 = exponent at fine
  have narrow := gridFine positive held fine
  obtain ⟨under, past⟩ := neighbours (4 * units) exponent
  have gapSome : (0 : ℚ) < gap units := by exact_mod_cast gapPos units
  have lowEnd : ((interval units).low : ℚ) = 4 * units - below units := by
    rw [intervalEq, Nat.cast_sub (belowLe positive).2.le]
    push_cast
    rfl
  have highEnd : ((interval units).high : ℚ) = 4 * units + 2 * gap units := by
    rw [intervalEq]
    push_cast
    rfl
  refine onGridSome rfl ?_
  have middle : (interval units).mid = 4 * units := rfl
  rw [middle]
  generalize 4 * units * (scales exponent).1 / (scales exponent).2 = low at under past ⊢
  have next : ((low + 1 : Nat) : ℚ) * step exponent = low * step exponent + step exponent := by
    push_cast
    ring
  push_cast at under past
  by_cases inside : ((interval units).low : ℚ) < low * step exponent
  · exact .inl (Interval.hasInner inside (by linarith))
  · refine .inr (Interval.hasInner ?_ ?_) <;> rw [next] <;> linarith

theorem shortestHas {units : Nat} (positive : 0 < units) (held : Held units) :
    (interval units).Has ((shortest units).value * quarters) := by
  rw [shortest, if_neg positive.ne']
  exact searchHas (gridReached positive held) 16

theorem shortestPositive {units : Nat} (positive : 0 < units) (held : Held units) : 0 < (shortest units).value := by
  have low : 0 < (interval units).low := Nat.sub_pos_of_lt (belowLe positive).2
  have low : (0 : ℚ) < (interval units).low := by exact_mod_cast low
  have scaled := low.trans_le (shortestHas positive held).within.1
  exact pos_of_mul_pos_left scaled (Nat.cast_nonneg _)

theorem shortestOnce {units units' : Nat} (held : Held units) (held' : Held units')
    (same : (shortest units).value = (shortest units').value) : units = units' := by
  have nothing : (shortest 0).value = 0 := by simp [shortest, value]
  rcases Nat.eq_zero_or_pos units with rfl | positive
  · rcases Nat.eq_zero_or_pos units' with rfl | positive'
    · rfl
    · exact absurd (same.symm.trans nothing) (shortestPositive positive' held').ne'
  · rcases Nat.eq_zero_or_pos units' with rfl | positive'
    · exact absurd (same.trans nothing) (shortestPositive positive held).ne'
    · have has := shortestHas positive held
      rw [same] at has
      exact intervalOnce positive positive' held held' has (shortestHas positive' held')

end Decimal
end Syllabus
