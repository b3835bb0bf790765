import Syllabus.Number.Binary64
import Syllabus.Proofs.Number.Shortest

/-! Rounding keeps the order. Between two numbers with steps of one size a larger quotient is not rounded to less; where
the steps grow, the place at which they do is a multiple of both and stays between the two. So does subtraction, of one
number from two. -/
namespace Syllabus.Binary64

theorem roundDivLe {num den most : Nat} (positive : 0 < den) (below : num ≤ most * den) : roundDiv num den ≤ most := by
  have split := Nat.div_add_mod num den
  have rest := Nat.mod_lt num positive
  have low : num / den ≤ most := Nat.div_le_of_le_mul (by rwa [Nat.mul_comm])
  rcases low.eq_or_lt with same | less
  · have whole : num % den = 0 := by rw [same, Nat.mul_comm] at split; omega
    simpa [roundDiv, whole, positive] using low
  · simp only [roundDiv]
    split
    · exact low
    · split <;> omega

theorem leRoundDiv {num den least : Nat} (positive : 0 < den) (above : least * den ≤ num) : least ≤ roundDiv num den := by
  have low : least ≤ num / den := (Nat.le_div_iff_mul_le positive).mpr above
  simp only [roundDiv]
  split
  · exact low
  · split <;> omega

theorem roundDivMono {num num' den : Nat} (positive : 0 < den) (ordered : num ≤ num') :
    roundDiv num den ≤ roundDiv num' den := by
  have split := Nat.div_add_mod num den
  have split' := Nat.div_add_mod num' den
  have rest := Nat.mod_lt num positive
  have low : num / den ≤ num' / den := Nat.div_le_div_right ordered
  rcases low.eq_or_lt with same | less
  · rw [same] at split
    have rests : num % den ≤ num' % den := by omega
    simp only [roundDiv, same]
    grind
  · calc roundDiv num den ≤ num / den + 1 := roundDivLe positive (by rw [Nat.add_one_mul, Nat.mul_comm]; omega)
      _ ≤ num' / den := less
      _ ≤ roundDiv num' den := leRoundDiv positive (Nat.div_mul_le_self num' den)

theorem roundUnitsOne (units : Nat) : roundUnits units 1 = gap units * roundDiv units (gap units) := by
  simp [roundUnits]

theorem roundUnitsMono {units units' : Nat} (ordered : units ≤ units') : roundUnits units 1 ≤ roundUnits units' 1 := by
  rw [roundUnitsOne, roundUnitsOne]
  rcases gapGrows ordered with same | wider
  · rw [same]
    exact Nat.mul_le_mul_left _ (roundDivMono (gapPos units') ordered)
  · rcases units.eq_zero_or_pos with none | positive
    · simp [none, roundDiv, gapPos]
    · have below := (gapBounds positive).1
      have above := (gapBounds (positive.trans_le ordered)).2 (by have := gapPos units; omega)
      calc gap units * roundDiv units (gap units) ≤ gap units * 2 ^ 53 :=
            Nat.mul_le_mul_left _ (roundDivLe (gapPos units) below.le)
        _ ≤ gap units' * 2 ^ 52 := by omega
        _ ≤ gap units' * roundDiv units' (gap units') := Nat.mul_le_mul_left _ (leRoundDiv (gapPos units') above)

def Defined (x : Binary64) : Prop := x ≠ .undefined

theorem leTrans {x y z : Binary64} (first : x.le y = true) (second : y.le z = true) : x.le z = true := by
  cases x <;> cases y <;> cases z <;> simp_all [le] <;> grind

theorem leTotal {x y : Binary64} (left : x.Defined) (right : y.Defined) : x.le y = true ∨ y.le x = true := by
  cases x with
  | undefined => exact absurd rfl left
  | infinite n => cases y <;> cases n <;> simp_all [le, Defined]
  | finite n a =>
    cases y with
    | undefined => exact absurd rfl right
    | infinite m => cases m <;> simp [le]
    | finite m b =>
      simp only [le, decide_eq_true_eq]
      exact le_total _ _

theorem ltNot {x y : Binary64} (left : x.Defined) (right : y.Defined) : x.lt y = !y.le x := by
  have total := leTotal left right
  rw [lt]
  grind

theorem lowest {x : Binary64} (defined : x.Defined) : (infinite true).le x = true := by
  cases x with
  | undefined => exact absurd rfl defined
  | infinite n => rfl
  | finite n a => rfl

theorem highest {x : Binary64} (defined : x.Defined) : x.le (infinite false) = true := by
  cases x with
  | undefined => exact absurd rfl defined
  | infinite n => simp [le]
  | finite n a => rfl

theorem ceilingPos : 0 < ceiling := by
  -- Over a variable, so that the power is not computed.
  have powers (n : Nat) : 0 < Nat.pow 2 n := Nat.two_pow_pos n
  delta ceiling
  apply powers

theorem packLe {negative negative' : Bool} {units units' : Nat}
    (ordered : (if negative then -(units : Int) else units) ≤ (if negative' then -(units' : Int) else units')) :
    (pack negative units).le (pack negative' units') = true := by
  have positive := ceilingPos
  simp only [pack]
  split <;> split <;> cases negative <;> cases negative' <;> simp_all [le] <;> omega

theorem packDefined (negative : Bool) (units : Nat) : (pack negative units).Defined := by
  rw [pack]
  split <;> nofun

theorem ofUnitsMono {a b : Int} (ordered : a ≤ b) : (ofUnits a).le (ofUnits b) = true := by
  apply packLe
  rcases lt_or_ge a 0 with below | above
  · rcases lt_or_ge b 0 with below' | above'
    · have rounded := roundUnitsMono (show b.natAbs ≤ a.natAbs by omega)
      simp only [below, below', decide_true, if_true]
      omega
    · simp only [below, Int.not_lt.mpr above', decide_true, decide_false, if_true, Bool.false_eq_true, if_false]
      omega
  · have rounded := roundUnitsMono (show a.natAbs ≤ b.natAbs by omega)
    simp only [Int.not_lt.mpr above, Int.not_lt.mpr (above.trans ordered), decide_false, Bool.false_eq_true, if_false]
    omega

theorem addFinite {x : Binary64} (n m : Bool) (a b : Nat) :
    (((finite n a).add (finite m b)).le x = (ofUnits ((if n then -(a : Int) else a) + (if m then -(b : Int) else b))).le x) ∧
      x.le ((finite n a).add (finite m b)) =
        x.le (ofUnits ((if n then -(a : Int) else a) + (if m then -(b : Int) else b))) := by
  rw [add]
  split
  · rename_i none
    have nothing : ofUnits ((if n then -(a : Int) else a) + (if m then -(b : Int) else b)) = .finite false 0 := by
      simp [none, ofUnits, pack, roundUnits, roundDiv, ceilingPos]
    rw [nothing]
    cases x <;> simp [le]
  · exact ⟨rfl, rfl⟩

theorem addDefined (n m : Bool) (a b : Nat) : ((finite n a).add (finite m b)).Defined := by
  rw [add]
  split
  · nofun
  · exact packDefined _ _

theorem addMono {x y : Binary64} (ordered : x.le y = true) (negative : Bool) (units : Nat) :
    (x.add (finite negative units)).le (y.add (finite negative units)) = true := by
  cases x with
  | undefined => simp [le] at ordered
  | infinite n =>
    cases y with
    | undefined => simp [le] at ordered
    | infinite m => exact ordered
    | finite m b =>
      rw [show n = true from ordered]
      exact lowest (addDefined m negative b units)
  | finite n a =>
    cases y with
    | undefined => simp [le] at ordered
    | infinite m =>
      rw [show m = false by simpa [le] using ordered]
      exact highest (addDefined n negative a units)
    | finite m b =>
      rw [(addFinite n negative a units).1, (addFinite m negative b units).2]
      simp only [le, decide_eq_true_eq] at ordered
      exact ofUnitsMono (Int.add_le_add_right ordered _)

theorem subMono {x y z : Binary64} (ordered : x.le y = true) (finite : z.isFinite = true) :
    (x.sub z).le (y.sub z) = true := by
  cases z with
  | finite n a => exact addMono ordered (!n) a
  | infinite n => cases finite
  | undefined => cases finite

theorem subDefined {x z : Binary64} (defined : x.Defined) (finite : z.isFinite = true) : (x.sub z).Defined := by
  cases z with
  | infinite n => cases finite
  | undefined => cases finite
  | finite m b =>
    cases x with
    | undefined => exact absurd rfl defined
    | infinite n => nofun
    | finite n a => exact addDefined n (!m) a b

def Reckoned (x : Binary64) : Prop := x.isFinite = true ∨ x = .infinite false

theorem packReckoned (units : Nat) : (pack false units).Reckoned := by
  rw [pack]
  split
  · exact .inl rfl
  · exact .inr rfl

theorem ofNatReckoned (n : Nat) : (ofNat n).Reckoned := by
  rw [ofNat, ofRatio]
  exact packReckoned _

theorem ofDecimalReckoned (digits : Nat) (exponent : Int) : (ofDecimal false digits exponent).Reckoned := by
  simp only [ofDecimal]
  split
  · exact .inl rfl
  · split
    · exact .inr rfl
    · split
      · exact .inl rfl
      · cases exponent with
        | ofNat e => exact packReckoned _
        | negSucc e => exact packReckoned _

theorem Reckoned.add {x y : Binary64} (left : x.Reckoned) (right : y.Reckoned) : (x.add y).Defined := by
  rcases left with left | rfl
  · cases x with
    | infinite n => cases left
    | undefined => cases left
    | finite n a =>
      rcases right with right | rfl
      · cases y with
        | infinite m => cases right
        | undefined => cases right
        | finite m b => exact addDefined n m a b
      · nofun
  · rcases right with right | rfl
    · cases y with
      | infinite m => cases right
      | undefined => cases right
      | finite m b => nofun
    · nofun

end Syllabus.Binary64
