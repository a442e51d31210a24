import DocQuery.Decimal.Scaling
import DocQuery.Proofs.Decimal.Written

/-!
Where binary64 ends. A magnitude is rounded to no finite number exactly if it reaches the middle
between the greatest finite number and the next power of two (`nearest?_eq_none_iff`), and a number
in the normal range is rounded by at most one part in `2 ^ 53` (`nearestValue_bounds`). So a decimal
that is read by scaling is too large exactly if the product of its rounded factors is
(`ofDecimal?_eq_none_iff`), which is decided by its value but for a narrow band around the end
(`tooLarge_bounds`). In the band there is room for digits of one length only, which are too large
from the reading limit on (`overflow_iff_limitDigits`). That is short of the end, though beyond all
finite numbers but the greatest (`readingLimit_bounds`).
-/

namespace DocQuery

section Integers

variable {num den : Nat}

theorem le_roundHalfEven_iff (pos : 0 < den) (half : Nat) :
    2 * (half + 1) ≤ roundHalfEven num den ↔ (4 * half + 3) * den ≤ 2 * num := by
  have cases := roundHalfEven_cases num den
  have split : den * (num / den) + num % den = num := Nat.div_add_mod num den
  have small : num % den < den := Nat.mod_lt num pos
  unfold roundHalfEven at cases ⊢
  simp only at cases ⊢
  generalize num / den = quotient at *
  generalize num % den = rest at *
  rcases lt_trichotomy quotient (2 * half + 1) with below | rfl | above
  · have upper : den * quotient ≤ den * (2 * half) := Nat.mul_le_mul_left den (by omega)
    refine iff_of_false (by omega) ?_
    intro reaches
    nlinarith
  · -- The quotient is odd, so that a tie goes up.
    have scaled : (4 * half + 3) * den ≤ 2 * num ↔ den ≤ 2 * rest := by
      constructor <;> intro le <;> nlinarith
    rw [scaled]
    split_ifs <;> omega
  · have lower : den * (2 * half + 2) ≤ den * quotient := Nat.mul_le_mul_left den above
    exact iff_of_true (by omega) (by nlinarith)

theorem roundHalfEven_near (pos : 0 < den) :
    2 * num ≤ 2 * (roundHalfEven num den * den) + den ∧
      2 * (roundHalfEven num den * den) ≤ 2 * num + den := by
  have split : den * (num / den) + num % den = num := Nat.div_add_mod num den
  have small : num % den < den := Nat.mod_lt num pos
  unfold roundHalfEven
  simp only
  generalize num / den = quotient at *
  generalize num % den = rest at *
  split_ifs <;> constructor <;> nlinarith

end Integers

namespace Binary64

section Bounds

variable {num den : Nat}

def overflowUnits : Nat := (2 ^ 54 - 1) * 2 ^ 2044

/-- The exponent is kept as a variable, so that the power is not computed. -/
theorem overflowUnits_power : ∃ top, top = 2044 ∧ overflowUnits = (2 ^ 54 - 1) * 2 ^ top :=
  ⟨2044, rfl, rfl⟩

attribute [irreducible] overflowUnits

theorem ofParts?_eq_none_iff (negative : Bool) (coefficient scale : Nat) :
    ofParts? negative coefficient scale = none ↔
      ¬ (coefficient < 2 ^ 53 ∧ (scale = 0 ∨ 2 ^ 52 ≤ coefficient) ∧ scale ≤ 2045) := by
  unfold ofParts?
  split
  next valid => exact iff_of_false (by simp) (not_not.mpr valid)
  next invalid => exact iff_of_true rfl invalid

theorem nearest?_eq_none_iff_scale (negative : Bool) (pos : 0 < den) :
    nearest? negative num den = none ↔
      2045 < gridScale (num * unitsInOne) den ∨
        gridScale (num * unitsInOne) den = 2045 ∧
          gridCoefficient (num * unitsInOne) den = 2 ^ 53 := by
  -- Only the scale can be too great, perhaps by a carry out of the coefficient.
  have atMost : gridCoefficient (num * unitsInOne) den ≤ 2 ^ 53 := gridCoefficient_le pos
  have normal : gridScale (num * unitsInOne) den = 0 ∨
      2 ^ 52 ≤ gridCoefficient (num * unitsInOne) den := by
    rcases Nat.eq_zero_or_pos (gridScale (num * unitsInOne) den) with zero | scaled
    · exact .inl zero
    · exact .inr (le_gridCoefficient pos scaled)
  rw [nearest?_eq]
  split
  next carry =>
    rw [ofParts?_eq_none_iff]
    simp only [carry, and_true]
    omega
  next noCarry =>
    rw [ofParts?_eq_none_iff]
    have bounded := Nat.lt_of_le_of_ne atMost noCarry
    simp only [bounded, normal, noCarry, true_and, and_false, or_false]
    omega

/-- There is no finite number to round to from the middle between the greatest one and the next
power of two on. -/
theorem nearest?_eq_none_iff (negative : Bool) (pos : 0 < den) :
    nearest? negative num den = none ↔ overflowUnits * den ≤ num * unitsInOne := by
  obtain ⟨top, isTop, overflow⟩ := overflowUnits_power
  rw [nearest?_eq_none_iff_scale negative pos, overflow]
  generalize num * unitsInOne = units
  have positive : 0 < 2 ^ top * den := Nat.mul_pos (Nat.two_pow_pos top) pos
  -- Everything below the last grid is finite, and nothing above it is.
  rcases lt_trichotomy (gridScale units den) 2045 with below | same | above
  · refine iff_of_false (by omega) (not_le.mpr ?_)
    calc units < 2 ^ (gridScale units den + 53) * den := lt_of_gridScale pos
      _ ≤ 2 ^ (53 + top) * den :=
        Nat.mul_le_mul_right den (Nat.pow_le_pow_right (by decide) (by omega))
      _ = 2 ^ 53 * (2 ^ top * den) := by rw [pow_add, mul_assoc]
      _ ≤ (2 ^ 54 - 1) * (2 ^ top * den) := Nat.mul_le_mul_right _ (by decide)
      _ = (2 ^ 54 - 1) * 2 ^ top * den := (mul_assoc _ _ _).symm
  · -- On the last grid the coefficient is rounded up to the bound from half a unit below it.
    have rounded : 2 ^ 53 ≤ gridCoefficient units den ↔
        (2 ^ 54 - 1) * (den * 2 ^ gridScale units den) ≤ 2 * units :=
      le_roundHalfEven_iff (Nat.mul_pos pos (Nat.two_pow_pos _)) (2 ^ 52 - 1)
    have grid : 2 ^ gridScale units den = 2 * 2 ^ top := by
      rw [← pow_succ', same, isTop]
    have atMost : gridCoefficient units den ≤ 2 ^ 53 := gridCoefficient_le pos
    rw [grid] at rounded
    constructor
    · rintro (more | ⟨-, carry⟩)
      · omega
      · have reaches := rounded.mp carry.ge
        nlinarith
    · intro reaches
      have carry := rounded.mpr (by nlinarith)
      exact .inr ⟨same, Nat.le_antisymm atMost carry⟩
  · refine iff_of_true (.inl above) ?_
    calc (2 ^ 54 - 1) * 2 ^ top * den ≤ 2 ^ 54 * 2 ^ top * den :=
        Nat.mul_le_mul_right den (Nat.mul_le_mul_right _ (by decide))
      _ = 2 ^ (54 + top) * den := by rw [pow_add]
      _ ≤ 2 ^ (gridScale units den + 52) * den :=
        Nat.mul_le_mul_right den (Nat.pow_le_pow_right (by decide) (by omega))
      _ ≤ units := le_of_gridScale pos (by omega)

theorem roundedUnits_near (pos : 0 < den) (normal : 2 ^ 52 * den ≤ num) :
    2 ^ 53 * num ≤ 2 ^ 53 * (roundedUnits num den * den) + num ∧
      2 ^ 53 * (roundedUnits num den * den) ≤ 2 ^ 53 * num + num := by
  have power : 0 < 2 ^ gridScale num den := Nat.two_pow_pos _
  have grid : 2 ^ 52 * (den * 2 ^ gridScale num den) ≤ num := by
    rcases Nat.eq_zero_or_pos (gridScale num den) with zero | scaled
    · rwa [zero, pow_zero, mul_one]
    · have low := le_of_gridScale pos scaled
      rw [pow_add] at low
      linarith
  have near := @roundHalfEven_near num _ (Nat.mul_pos pos power)
  have same : roundHalfEven num (den * 2 ^ gridScale num den) * (den * 2 ^ gridScale num den) =
      roundedUnits num den * den := by
    rw [roundedUnits, gridCoefficient]
    ring
  rw [same] at near
  omega

end Bounds

section Values

def nearestValue (v : ℚ) : ℚ := roundedMagnitude v / (unitsInOne : ℕ)

/-- From here on a magnitude is rounded to no finite number. -/
def overflowValue : ℚ := 2 ^ 1024 - 2 ^ 970

theorem overflowValue_power : ∃ low, low = 970 ∧ overflowValue = (2 ^ 54 - 1) * 2 ^ low := by
  refine ⟨970, rfl, ?_⟩
  have split : (2 : ℚ) ^ 1024 = 2 ^ 54 * 2 ^ 970 := by rw [← pow_add]
  rw [overflowValue, split]
  generalize (2 : ℚ) ^ 970 = unit
  ring

/-- The last grid of finite numbers, in halves of its step, and the powers that are spoken of near
the end. -/
theorem overflow_grid : ∃ unit : ℚ, 0 < unit ∧ overflowValue = (2 ^ 54 - 1) * unit ∧
    2 ^ 972 = 2 ^ 2 * unit ∧ 2 ^ 973 = 2 ^ 3 * unit ∧ 2 ^ 1024 = 2 ^ 54 * unit := by
  obtain ⟨low, isLow, value⟩ := overflowValue_power
  refine ⟨2 ^ low, by positivity, value, ?_, ?_, ?_⟩ <;> rw [← pow_add, isLow]

theorem overflowValue_pos : 0 < overflowValue := by
  obtain ⟨unit, pos, value, -⟩ := overflow_grid
  rw [value]
  exact mul_pos (by norm_num) pos

theorem unitsInOne_pos : (0 : ℚ) < (unitsInOne : ℕ) := by
  obtain ⟨places, -, inOne⟩ := unitsInOne_power
  rw [inOne]
  positivity

theorem overflowValue_units : overflowValue * (unitsInOne : ℕ) = (overflowUnits : ℕ) := by
  obtain ⟨low, isLow, value⟩ := overflowValue_power
  obtain ⟨top, isTop, units⟩ := overflowUnits_power
  obtain ⟨places, isPlaces, inOne⟩ := unitsInOne_power
  have sum : top = low + places := by omega
  rw [value, units, inOne, sum, pow_add]
  push_cast
  ring

theorem nearestValue_nonneg (v : ℚ) : 0 ≤ nearestValue v :=
  div_nonneg (Nat.cast_nonneg _) unitsInOne_pos.le

theorem nearestValue_mono {v w : ℚ} (nonneg : 0 ≤ v) (le : v ≤ w) :
    nearestValue v ≤ nearestValue w := by
  have magnitudes : roundedMagnitude v ≤ roundedMagnitude w :=
    roundedMagnitude_mono (by rwa [abs_of_nonneg nonneg, abs_of_nonneg (nonneg.trans le)])
  have cast : (roundedMagnitude v : ℚ) ≤ roundedMagnitude w := by exact_mod_cast magnitudes
  exact div_le_div_of_nonneg_right cast unitsInOne_pos.le

theorem nearestValue_zero : nearestValue 0 = 0 := by
  simp [nearestValue, roundedMagnitude_zero]

/-- In the normal range rounding moves a value by at most one part in `2 ^ 53`. -/
theorem nearestValue_bounds {v : ℚ} (one : 1 ≤ v) :
    (2 ^ 53 - 1) * v ≤ 2 ^ 53 * nearestValue v ∧ 2 ^ 53 * nearestValue v ≤ (2 ^ 53 + 1) * v := by
  have posDen : (0 : ℚ) < v.den := by exact_mod_cast v.den_pos
  have unit := unitsInOne_pos
  have numerator : v * v.den = v.num.natAbs := by
    rw [← eq_div_iff posDen.ne', ← abs_eq_natAbs_div, abs_of_nonneg (by linarith)]
  have units : nearestValue v * (unitsInOne : ℕ) = roundedMagnitude v :=
    div_mul_cancel₀ _ unit.ne'
  -- A value of at least one is in the normal range.
  have normal : 2 ^ 52 * v.den ≤ v.num.natAbs * unitsInOne := by
    have whole : v.den ≤ v.num.natAbs := by
      have le : (v.den : ℚ) ≤ v.num.natAbs := by
        rw [← numerator]
        exact le_mul_of_one_le_left posDen.le one
      exact_mod_cast le
    obtain ⟨places, isPlaces, inOne⟩ := unitsInOne_power
    rw [inOne, mul_comm (v.num.natAbs)]
    exact Nat.mul_le_mul (Nat.pow_le_pow_right (by decide) (by omega)) whole
  have near := roundedUnits_near v.den_pos normal
  rw [← roundedMagnitude] at near
  obtain ⟨low, high⟩ := near
  have low : (2 : ℚ) ^ 53 * (v.num.natAbs * (unitsInOne : ℕ)) ≤
      2 ^ 53 * (roundedMagnitude v * v.den) + v.num.natAbs * (unitsInOne : ℕ) := by
    exact_mod_cast low
  have high : (2 : ℚ) ^ 53 * (roundedMagnitude v * v.den) ≤
      2 ^ 53 * (v.num.natAbs * (unitsInOne : ℕ)) + v.num.natAbs * (unitsInOne : ℕ) := by
    exact_mod_cast high
  rw [← numerator, ← units] at low high
  have scale : 0 < (v.den : ℚ) * (unitsInOne : ℕ) := mul_pos posDen unit
  constructor
  · refine le_of_mul_le_mul_right ?_ scale
    linarith
  · refine le_of_mul_le_mul_right ?_ scale
    linarith

theorem nearestValue_one : nearestValue 1 = 1 := by
  have power := @roundedMagnitude_power 0 (by decide) (by decide)
  obtain ⟨places, isPlaces, inOne⟩ := unitsInOne_power
  have exponent : (0 + 1074 : ℤ).toNat = places := by omega
  rw [zpow_zero, exponent, ← inOne] at power
  rw [nearestValue, power, div_self unitsInOne_pos.ne']

end Values

section Scaling

variable {num den : Nat} {negative : Bool} {x : Binary64}

theorem nearest?_value (pos : 0 < den) (found : nearest? negative num den = some x) :
    (x.units : ℚ) = nearestValue (num / den) * (unitsInOne : ℕ) := by
  rw [nearestValue, roundedMagnitude_div num pos, div_mul_cancel₀ _ unitsInOne_pos.ne',
    (nearest?_eq_some found).2]

theorem nearest?_whole (found : nearest? negative num 1 = some x) :
    (x.units : ℚ) = nearestValue num * (unitsInOne : ℕ) := by
  have value := nearest?_value Nat.one_pos found
  rwa [Nat.cast_one, div_one] at value

theorem units_lt_overflowUnits (x : Binary64) : x.units < overflowUnits := by
  have pos : 0 < unitsInOne := by exact_mod_cast unitsInOne_pos
  have found : nearest? x.negative x.units unitsInOne ≠ none := by
    rw [nearest?_exact x pos rfl]
    exact Option.some_ne_none x
  rw [ne_eq, nearest?_eq_none_iff _ pos, not_le] at found
  exact Nat.lt_of_mul_lt_mul_right found

theorem nearest?_whole_eq_none_iff (negative : Bool) (num : Nat) :
    nearest? negative num 1 = none ↔ overflowValue ≤ num := by
  have cast : overflowValue ≤ num ↔ (overflowUnits : ℚ) ≤ (num * unitsInOne : ℕ) := by
    rw [← overflowValue_units, Nat.cast_mul]
    exact (mul_le_mul_iff_of_pos_right unitsInOne_pos).symm
  rw [nearest?_eq_none_iff negative Nat.one_pos, mul_one, cast, Nat.cast_le]

theorem greatestPower_lt : (10 : ℚ) ^ greatestPower < overflowValue := by
  obtain ⟨low, isLow, value⟩ := overflowValue_power
  have factors : greatestPower = 28 * 11 := rfl
  have sum : 93 * 11 = 53 + low := by omega
  have base : (10 : ℚ) ^ 28 ≤ 101 / 100 * 2 ^ 93 := by norm_num
  have power : 0 < (2 : ℚ) ^ low := by positivity
  calc (10 : ℚ) ^ greatestPower = (10 ^ 28) ^ 11 := by rw [factors, pow_mul]
    _ ≤ (101 / 100 * 2 ^ 93) ^ 11 := pow_le_pow_left₀ (by positivity) base 11
    _ = (101 / 100) ^ 11 * (2 ^ 53 * 2 ^ low) := by rw [mul_pow, ← pow_mul, sum, pow_add]
    _ = ((101 / 100) ^ 11 * 2 ^ 53) * 2 ^ low := (mul_assoc _ _ _).symm
    _ < (2 ^ 54 - 1) * 2 ^ low := mul_lt_mul_of_pos_right (by norm_num) power
    _ = overflowValue := value.symm

theorem powerOfTen?_of_le {exponent : Nat} (le : exponent ≤ greatestPower) :
    ∃ power, powerOfTen? exponent = some power ∧
      (power.units : ℚ) = nearestValue (10 ^ exponent) * (unitsInOne : ℕ) := by
  have cast : ((10 ^ exponent : ℕ) : ℚ) = 10 ^ exponent := by rw [Nat.cast_pow, Nat.cast_ofNat]
  have small : (10 : ℚ) ^ exponent ≤ 10 ^ greatestPower := pow_le_pow_right₀ (by norm_num) le
  have finite : nearest? false (10 ^ exponent) 1 ≠ none := by
    rw [ne_eq, nearest?_whole_eq_none_iff, not_le, cast]
    exact small.trans_lt greatestPower_lt
  obtain ⟨power, found⟩ := Option.ne_none_iff_exists'.mp finite
  refine ⟨power, (if_pos le).trans found, ?_⟩
  rw [nearest?_whole found, cast]

/-- A number is not made greater by a divisor that is one or more. -/
theorem div?_of_one_le (x : Binary64) {divisor : Binary64} (one : unitsInOne ≤ divisor.units) :
    ∃ quotient, x.div? divisor = some quotient := by
  have pos : 0 < unitsInOne := by exact_mod_cast unitsInOne_pos
  apply Option.ne_none_iff_exists'.mp
  rw [div?, ne_eq, nearest?_eq_none_iff _ (by omega), not_le]
  calc x.units * unitsInOne < overflowUnits * unitsInOne :=
      Nat.mul_lt_mul_of_pos_right (units_lt_overflowUnits x) pos
    _ ≤ overflowUnits * divisor.units := Nat.mul_le_mul_left _ one

theorem one_le_powerOfTen {exponent : Nat} {power : Binary64}
    (value : (power.units : ℚ) = nearestValue (10 ^ exponent) * (unitsInOne : ℕ)) :
    unitsInOne ≤ power.units := by
  have one : 1 ≤ nearestValue (10 ^ exponent) := by
    calc (1 : ℚ) = nearestValue 1 := nearestValue_one.symm
      _ ≤ nearestValue (10 ^ exponent) :=
        nearestValue_mono zero_le_one (one_le_pow₀ (by norm_num))
  have cast : ((unitsInOne : ℕ) : ℚ) ≤ power.units := by
    rw [value]
    exact le_mul_of_one_le_left unitsInOne_pos.le one
  exact_mod_cast cast

theorem scaleDown?_isSome (exponent steps : Nat) (x : Binary64) :
    ∃ quotient, x.scaleDown? exponent steps = some quotient := by
  induction steps generalizing x exponent with
  | zero => exact ⟨_, rfl⟩
  | succ steps ih =>
      rw [scaleDown?]
      split
      next le =>
        obtain ⟨power, found, value⟩ := powerOfTen?_of_le le
        rw [found, Option.bind_some]
        exact div?_of_one_le x (one_le_powerOfTen value)
      next =>
        obtain ⟨power, found, value⟩ := powerOfTen?_of_le (Nat.le_refl greatestPower)
        obtain ⟨quotient, divided⟩ := div?_of_one_le x (one_le_powerOfTen value)
        rw [found, Option.bind_some, divided, Option.bind_some]
        exact ih _ quotient

theorem mul?_eq_none_iff {x y : Binary64} {v w : ℚ}
    (left : (x.units : ℚ) = v * (unitsInOne : ℕ)) (right : (y.units : ℚ) = w * (unitsInOne : ℕ)) :
    x.mul? y = none ↔ overflowValue ≤ v * w := by
  obtain ⟨places, isPlaces, inOne⟩ := unitsInOne_power
  have square : ∀ both, both = 2148 → Nat.pow 2 both = unitsInOne * unitsInOne := by
    intro both isBoth
    have sum : both = places + places := by omega
    rw [inOne, ← pow_add, sum]
    rfl
  have pos : 0 < unitsInOne := by exact_mod_cast unitsInOne_pos
  have unit := unitsInOne_pos
  rw [mul?, square _ rfl, nearest?_eq_none_iff _ (Nat.mul_pos pos pos), ← mul_assoc,
    Nat.mul_le_mul_right_iff pos]
  have cast : overflowUnits * unitsInOne ≤ x.units * y.units ↔
      overflowValue * ((unitsInOne : ℕ) * (unitsInOne : ℕ)) ≤
        v * w * ((unitsInOne : ℕ) * (unitsInOne : ℕ)) := by
    rw [← Nat.cast_le (α := ℚ), Nat.cast_mul, Nat.cast_mul, left, right, ← overflowValue_units]
    constructor <;> intro le <;> linarith
  rw [cast, mul_le_mul_iff_of_pos_right (mul_pos unit unit)]

end Scaling

section Decimals

variable {v w : ℚ}

theorem one_le_nearestValue (one : 1 ≤ v) : 1 ≤ nearestValue v :=
  nearestValue_one.symm.le.trans (nearestValue_mono zero_le_one one)

theorem overflow_beyond {exponent : Nat} (beyond : greatestPower < exponent) :
    overflowValue ≤ nearestValue (10 ^ exponent) := by
  obtain ⟨low, isLow, value⟩ := overflowValue_power
  have sum : 93 * 11 = 53 + low := by omega
  have base : (2 : ℚ) ^ 93 ≤ 10 ^ 28 := by norm_num
  have power : (2 : ℚ) ^ 56 * 2 ^ low ≤ 10 ^ exponent := by
    calc (2 : ℚ) ^ 56 * 2 ^ low = 8 * (2 ^ 53 * 2 ^ low) := by ring
      _ = 8 * (2 ^ 93) ^ 11 := by rw [← pow_add, ← sum, pow_mul]
      _ ≤ 10 * (10 ^ 28) ^ 11 := by gcongr; norm_num
      _ = 10 * 10 ^ (28 * 11) := by rw [pow_mul]
      _ = 10 ^ (28 * 11 + 1) := (pow_succ' 10 (28 * 11)).symm
      _ ≤ 10 ^ exponent := pow_le_pow_right₀ (by norm_num) beyond
  have one : 1 ≤ (10 : ℚ) ^ exponent := one_le_pow₀ (by norm_num)
  have near := (nearestValue_bounds one).1
  have unit : 0 < (2 : ℚ) ^ low := by positivity
  rw [value]
  linarith

theorem scaleUp?_eq_none_iff {x : Binary64} (value : (x.units : ℚ) = v * (unitsInOne : ℕ))
    (whole : v = 0 ∨ 1 ≤ v) (exponent : Nat) :
    x.scaleUp? exponent = none ↔ overflowValue ≤ v * nearestValue (10 ^ exponent) := by
  rcases whole with rfl | one
  · rw [zero_mul, Nat.cast_eq_zero] at value
    rw [scaleUp?, if_pos value, zero_mul]
    exact iff_of_false (Option.some_ne_none x) (not_le.mpr overflowValue_pos)
  · have nonzero : x.units ≠ 0 := by
      rw [← Nat.cast_ne_zero (R := ℚ), value]
      exact (mul_pos (by linarith) unitsInOne_pos).ne'
    rw [scaleUp?, if_neg nonzero]
    by_cases le : exponent ≤ greatestPower
    · obtain ⟨power, found, powerValue⟩ := powerOfTen?_of_le le
      rw [found, Option.bind_some, mul?_eq_none_iff value powerValue]
    · have beyond := overflow_beyond (not_le.mp le)
      rw [powerOfTen?, if_neg le]
      refine iff_of_true rfl (beyond.trans ?_)
      exact le_mul_of_one_le_left (nearestValue_nonneg _) one

theorem overflowValue_gt {digits : Nat} (bounded : digits < 2 ^ 64) : digits < overflowValue := by
  obtain ⟨low, isLow, value⟩ := overflowValue_power
  have cast : (digits : ℚ) < 2 ^ 64 := by exact_mod_cast bounded
  have power : (2 : ℚ) ^ 11 ≤ 2 ^ low := pow_le_pow_right₀ (by norm_num) (by omega)
  rw [value]
  linarith

theorem nearest?_digits (negative : Bool) {digits : Nat} (bounded : digits < 2 ^ 64) :
    ∃ x, nearest? negative digits 1 = some x ∧
      (x.units : ℚ) = nearestValue digits * (unitsInOne : ℕ) ∧
      nearestValue digits < overflowValue := by
  have finite : nearest? negative digits 1 ≠ none := by
    rw [ne_eq, nearest?_whole_eq_none_iff, not_le]
    exact overflowValue_gt bounded
  obtain ⟨x, found⟩ := Option.ne_none_iff_exists'.mp finite
  have value := nearest?_whole found
  refine ⟨x, found, value, lt_of_mul_lt_mul_right ?_ unitsInOne_pos.le⟩
  rw [← value, overflowValue_units]
  exact_mod_cast units_lt_overflowUnits x

theorem digits_cases (digits : Nat) : (digits : ℚ) = 0 ∨ 1 ≤ (digits : ℚ) := by
  rcases Nat.eq_zero_or_pos digits with rfl | pos
  · exact .inl Nat.cast_zero
  · exact .inr (by exact_mod_cast pos)

theorem product_lt_of_neg {d : Decimal} (bounded : d.digits < 2 ^ 64) (neg : d.exponent < 0) :
    nearestValue d.digits * nearestValue (10 ^ d.exponent) < overflowValue := by
  -- Under a negative exponent nothing is too large, since the digits alone are not.
  obtain ⟨-, -, -, small⟩ := nearest?_digits false bounded
  have power : nearestValue (10 ^ d.exponent) ≤ 1 := by
    calc nearestValue (10 ^ d.exponent) ≤ nearestValue 1 :=
        nearestValue_mono (by positivity) (zpow_le_one_of_nonpos₀ (by norm_num) neg.le)
      _ = 1 := nearestValue_one
  exact (mul_le_of_le_one_right (nearestValue_nonneg _) power).trans_lt small

/-- A decimal is too large exactly if the product of its rounded factors is. -/
theorem ofDecimal?_eq_none_iff (negative : Bool) {d : Decimal} (bounded : d.digits < 2 ^ 64) :
    ofDecimal? negative d = none ↔
      overflowValue ≤ nearestValue d.digits * nearestValue (10 ^ d.exponent) := by
  obtain ⟨x, found, value, -⟩ := nearest?_digits negative bounded
  rw [ofDecimal?, found, Option.bind_some]
  split
  next nonneg =>
    have whole : nearestValue d.digits = 0 ∨ 1 ≤ nearestValue d.digits := by
      rcases digits_cases d.digits with zero | one
      · exact .inl (zero ▸ nearestValue_zero)
      · exact .inr (one_le_nearestValue one)
    have power : (10 : ℚ) ^ d.exponent = 10 ^ d.exponent.toNat := by
      rw [← zpow_natCast, Int.toNat_of_nonneg nonneg]
    rw [power, scaleUp?_eq_none_iff value whole]
  next neg =>
    obtain ⟨quotient, divided⟩ := scaleDown?_isSome (-d.exponent).toNat stepsToZero x
    rw [divided]
    exact iff_of_false (Option.some_ne_none quotient)
      (not_le.mpr (product_lt_of_neg bounded (not_le.mp neg)))

/-- Each of the two roundings moves the product by at most one part in `2 ^ 53`. -/
theorem product_bounds (left : 1 ≤ v) (right : 1 ≤ w) :
    (2 ^ 53 - 1) ^ 2 * (v * w) ≤ 2 ^ 106 * (nearestValue v * nearestValue w) ∧
      2 ^ 106 * (nearestValue v * nearestValue w) ≤ (2 ^ 53 + 1) ^ 2 * (v * w) := by
  obtain ⟨lowLeft, highLeft⟩ := nearestValue_bounds left
  obtain ⟨lowRight, highRight⟩ := nearestValue_bounds right
  have square : (2 : ℚ) ^ 106 * (nearestValue v * nearestValue w) =
      2 ^ 53 * nearestValue v * (2 ^ 53 * nearestValue w) := by ring
  rw [square]
  constructor
  · calc (2 ^ 53 - 1) ^ 2 * (v * w) = (2 ^ 53 - 1) * v * ((2 ^ 53 - 1) * w) := by ring
      _ ≤ 2 ^ 53 * nearestValue v * (2 ^ 53 * nearestValue w) :=
        mul_le_mul lowLeft lowRight (by linarith)
          (mul_nonneg (by norm_num) (nearestValue_nonneg v))
  · calc 2 ^ 53 * nearestValue v * (2 ^ 53 * nearestValue w)
        ≤ (2 ^ 53 + 1) * v * ((2 ^ 53 + 1) * w) :=
        mul_le_mul highLeft highRight (mul_nonneg (by norm_num) (nearestValue_nonneg w))
          (by linarith)
      _ = (2 ^ 53 + 1) ^ 2 * (v * w) := by ring

/-- A decimal is too large if its value is beyond the end by more than a narrow band, and only if
it is not short of the end by more than one. -/
theorem tooLarge_bounds {d : Decimal} (bounded : d.digits < 2 ^ 64) :
    (overflowValue ≤ nearestValue d.digits * nearestValue (10 ^ d.exponent) →
      overflowValue - 2 ^ 972 ≤ d.value) ∧
    (2 ^ 1024 + 2 ^ 972 ≤ d.value →
      overflowValue ≤ nearestValue d.digits * nearestValue (10 ^ d.exponent)) := by
  obtain ⟨unit, pos, value, band, -, power⟩ := overflow_grid
  have small := overflowValue_gt bounded
  rcases lt_or_ge d.exponent 0 with neg | nonneg
  · have product := product_lt_of_neg bounded neg
    have least : d.value ≤ d.digits :=
      mul_le_of_le_one_right (Nat.cast_nonneg _) (zpow_le_one_of_nonpos₀ (by norm_num) neg.le)
    constructor
    · intro reaches
      exact absurd reaches (not_le.mpr product)
    · intro reaches
      rw [band, power] at reaches
      rw [value] at small
      linarith only [reaches, small, least, pos]
  · rcases digits_cases d.digits with zero | one
    · rw [zero, nearestValue_zero, zero_mul, Decimal.value, zero, zero_mul, band, power]
      constructor <;> intro reaches <;> linarith only [reaches, overflowValue_pos, pos]
    -- Both factors are rounded, and each rounding moves the product by at most a part in `2 ^ 53`.
    · have ten : (1 : ℚ) ≤ 10 ^ d.exponent := one_le_zpow₀ (by norm_num) nonneg
      obtain ⟨lower, upper⟩ := product_bounds one ten
      rw [Decimal.value, value, band, power]
      generalize (d.digits : ℚ) * 10 ^ d.exponent = exact at *
      generalize nearestValue d.digits * nearestValue (10 ^ d.exponent) = product at *
      constructor <;> intro reaches
      · linarith only [reaches, upper, pos]
      · linarith only [reaches, lower, pos]

end Decimals

section Limit

def greatest : Binary64 where
  negative := false
  coefficient := 2 ^ 53 - 1
  scale := 2045
  bounded := by decide
  normal := .inr (by decide)
  finite := by decide

/-- The least digits that are too large in front of 289 zeros. -/
def limitDigits : Nat := 17976931348623156225

theorem overflow_iff_limitDigits (digits : Nat) :
    overflowValue ≤ nearestValue digits * nearestValue (10 ^ (289 : ℤ)) ↔ limitDigits ≤ digits := by
  -- Rounding is monotone, so two decimals decide about all that have as many zeros.
  have monotone : ∀ {less more : Nat}, less ≤ more →
      nearestValue less * nearestValue (10 ^ (289 : ℤ)) ≤
        nearestValue more * nearestValue (10 ^ (289 : ℤ)) := fun le =>
    mul_le_mul_of_nonneg_right (nearestValue_mono (Nat.cast_nonneg _) (by exact_mod_cast le))
      (nearestValue_nonneg _)
  constructor
  · intro reaches
    by_contra short
    have read : ofDecimal? false ⟨limitDigits - 1, 289⟩ ≠ none := by decide +kernel
    rw [ne_eq, ofDecimal?_eq_none_iff false (by decide), not_le] at read
    exact absurd (reaches.trans (monotone (Nat.le_pred_of_lt (not_le.mp short)))) (not_le.mpr read)
  · intro enough
    have refused : ofDecimal? false ⟨limitDigits, 289⟩ = none := by decide +kernel
    rw [ofDecimal?_eq_none_iff false (by decide)] at refused
    exact refused.trans (monotone enough)

/-- From here on a magnitude is too large to be read. -/
def readingLimit : ℚ := limitDigits * 10 ^ 289

/-- The limit is short of the end of binary64, but beyond the middle between the two greatest finite
numbers. -/
theorem readingLimit_bounds :
    2 ^ 1024 - 3 * 2 ^ 970 < readingLimit ∧ readingLimit < 2 ^ 1024 - 2 ^ 970 := by
  obtain ⟨top, low, zeros, isTop, isLow, isZeros, above, below⟩ : ∃ top low zeros : ℕ,
      top = 1024 ∧ low = 970 ∧ zeros = 289 ∧
      2 ^ top < limitDigits * 10 ^ zeros + 3 * 2 ^ low ∧
      limitDigits * 10 ^ zeros + 2 ^ low < 2 ^ top :=
    ⟨1024, 970, 289, rfl, rfl, rfl, by decide +kernel, by decide +kernel⟩
  have above : (2 : ℚ) ^ top < limitDigits * 10 ^ zeros + 3 * 2 ^ low := by exact_mod_cast above
  have below : (limitDigits : ℚ) * 10 ^ zeros + 2 ^ low < 2 ^ top := by exact_mod_cast below
  rw [readingLimit, ← isTop, ← isLow, ← isZeros]
  exact ⟨by linarith only [above], by linarith only [below]⟩

theorem readingLimit_band :
    2 ^ 1024 - 2 ^ 973 ≤ readingLimit ∧ readingLimit ≤ 2 ^ 1024 + 2 ^ 973 := by
  obtain ⟨above, below⟩ := readingLimit_bounds
  have margin : (2 : ℚ) ^ 973 = 2 ^ 3 * 2 ^ 970 := by rw [← pow_add]
  have pos : 0 < (2 : ℚ) ^ 970 := by positivity
  rw [margin]
  generalize (2 : ℚ) ^ 970 = unit at *
  generalize (2 : ℚ) ^ 1024 = top at *
  exact ⟨by linarith only [above, pos], by linarith only [below, pos]⟩

/-- With 288 zeros even the greatest digits of 64 bits are short of the band, and with 290 the least
ones that fill 64 bits are beyond it. -/
theorem band_zeros : ∃ zeros : ℕ, zeros = 288 ∧
    (2 : ℚ) ^ 64 * 10 ^ zeros ≤ 2 ^ 1024 - 2 ^ 973 ∧
    (2 : ℚ) ^ 63 * 10 ^ (zeros + 1) ≤ 2 ^ 1024 - 2 ^ 973 ∧
    2 ^ 1024 + 2 ^ 973 ≤ (2 ^ 64 - 9) * (10 : ℚ) ^ (zeros + 1) := by
  obtain ⟨top, low, zeros, isTop, isLow, isZeros, fewer, half, more⟩ : ∃ top low zeros : ℕ,
      top = 1024 ∧ low = 973 ∧ zeros = 288 ∧
      2 ^ 64 * 10 ^ zeros + 2 ^ low ≤ 2 ^ top ∧ 2 ^ 63 * 10 ^ (zeros + 1) + 2 ^ low ≤ 2 ^ top ∧
      2 ^ top + 2 ^ low + 9 * 10 ^ (zeros + 1) ≤ 2 ^ 64 * 10 ^ (zeros + 1) :=
    ⟨1024, 973, 288, rfl, rfl, rfl, by decide +kernel, by decide +kernel, by decide +kernel⟩
  have fewer : (2 : ℚ) ^ 64 * 10 ^ zeros + 2 ^ low ≤ 2 ^ top := by exact_mod_cast fewer
  have half : (2 : ℚ) ^ 63 * 10 ^ (zeros + 1) + 2 ^ low ≤ 2 ^ top := by exact_mod_cast half
  have more : (2 : ℚ) ^ top + 2 ^ low + 9 * 10 ^ (zeros + 1) ≤ 2 ^ 64 * 10 ^ (zeros + 1) := by
    exact_mod_cast more
  rw [← isTop, ← isLow]
  exact ⟨zeros, isZeros, by linarith only [fewer], by linarith only [half], by linarith only [more]⟩

/-- In the band the digits that fit 64 bits stand in front of 289 others. -/
theorem band_places {digits places : ℕ} {v : ℚ} (bounded : digits < 2 ^ 64)
    (full : places = 0 ∨ 2 ^ 64 ≤ 10 * digits + 9)
    (least : (digits : ℚ) * 10 ^ places ≤ v) (most : v < (digits + 1) * 10 ^ places)
    (low : 2 ^ 1024 - 2 ^ 973 ≤ v) (high : v < 2 ^ 1024 + 2 ^ 973) :
    places = 289 ∧ 2 ^ 63 ≤ digits := by
  obtain ⟨zeros, isZeros, fewer, half, more⟩ := band_zeros
  generalize (2 : ℚ) ^ 1024 = top at *
  generalize (2 : ℚ) ^ 973 = margin at *
  have power : ∀ {less more : ℕ}, less ≤ more → (10 : ℚ) ^ less ≤ 10 ^ more := fun le =>
    pow_le_pow_right₀ (by norm_num) le
  have bounded : (digits : ℚ) + 1 ≤ 2 ^ 64 := by exact_mod_cast bounded
  -- Fewer places leave the value short of the band, and more of them carry it beyond.
  have notFewer : zeros < places := by
    by_contra le
    have reaches : (digits + 1) * 10 ^ places ≤ (2 : ℚ) ^ 64 * 10 ^ zeros :=
      mul_le_mul bounded (power (not_lt.mp le)) (by positivity) (by positivity)
    linarith only [reaches, most, low, fewer]
  have great : (2 : ℚ) ^ 64 ≤ 10 * digits + 9 := by
    exact_mod_cast full.resolve_left (by omega)
  have notMore : places ≤ zeros + 1 := by
    by_contra gt
    have reaches : (digits : ℚ) * 10 ^ (zeros + 1 + 1) ≤ digits * 10 ^ places :=
      mul_le_mul_of_nonneg_left (power (not_le.mp gt)) (Nat.cast_nonneg _)
    have ten : (2 ^ 64 - 9) * (10 : ℚ) ^ (zeros + 1) ≤ digits * 10 ^ (zeros + 1 + 1) := by
      rw [pow_succ (10 : ℚ) (zeros + 1), ← mul_assoc, mul_right_comm]
      exact mul_le_mul_of_nonneg_right (by linarith only [great]) (by positivity)
    linarith only [reaches, ten, least, high, more]
  obtain rfl : places = zeros + 1 := by omega
  refine ⟨by omega, ?_⟩
  by_contra lt
  have less : (digits : ℚ) + 1 ≤ 2 ^ 63 := by exact_mod_cast not_le.mp lt
  have reaches : (digits + 1) * 10 ^ (zeros + 1) ≤ (2 : ℚ) ^ 63 * 10 ^ (zeros + 1) :=
    mul_le_mul_of_nonneg_right less (by positivity)
  linarith only [reaches, most, low, half]

end Limit

end Binary64

end DocQuery
