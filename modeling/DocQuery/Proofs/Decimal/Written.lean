import Mathlib.Algebra.Order.Field.Power
import Mathlib.Data.Rat.Cast.Order
import Mathlib.Tactic.FieldSimp
import Mathlib.Tactic.Linarith
import Mathlib.Tactic.NormNum
import Mathlib.Tactic.Positivity
import Mathlib.Tactic.Ring
import DocQuery.Decimal.Bounded
import DocQuery.Proofs.Decimal.Rounding

/-!
The value that a binary64 number is written with. It is rounded to the number that it was written for
(`nearest?_shortest`), its leading exponent tells its size (`value_bounds`), and its ticks are the
value rounded at a half (`ticks_bounds`).
-/

namespace DocQuery

namespace Decimal

section Values

def value (d : Decimal) : ℚ := d.digits * (10 : ℚ) ^ d.exponent

theorem den_pos (d : Decimal) : 0 < d.den := Nat.pow_pos (by decide)

theorem ten_zpow (exponent : ℤ) :
    (10 : ℚ) ^ exponent = 10 ^ exponent.toNat / 10 ^ (-exponent).toNat := by
  conv_lhs => rw [← Int.toNat_sub_toNat_neg exponent]
  rw [zpow_sub₀ (by norm_num), zpow_natCast, zpow_natCast]

theorem value_eq (d : Decimal) : d.value = (d.num : ℚ) / d.den := by
  simp only [value, ten_zpow, Decimal.num, Decimal.den, Nat.pow_eq]
  push_cast
  ring

theorem value_nonneg (d : Decimal) : 0 ≤ d.value := by
  unfold value
  positivity

theorem value_eq_zero_iff (d : Decimal) : d.value = 0 ↔ d.digits = 0 := by
  have unit : (10 : ℚ) ^ d.exponent ≠ 0 := zpow_ne_zero _ (by norm_num)
  simp [value, unit]

theorem digitCount_pos (n : Nat) : 0 < digitCount n := Nat.length_toDigits_pos

theorem lt_pow_digitCount (n : Nat) : n < 10 ^ digitCount n :=
  (Nat.length_toDigits_le_iff (by decide) (digitCount_pos n)).mp (Nat.le_refl _)

theorem pow_digitCount_le {n : Nat} (nonzero : n ≠ 0) : 10 ^ (digitCount n - 1) ≤ n := by
  rcases Nat.eq_zero_or_pos (digitCount n - 1) with single | more
  · rw [single]
    omega
  · by_contra! less
    have fewer : digitCount n ≤ digitCount n - 1 :=
      (Nat.length_toDigits_le_iff (by decide) more).mpr less
    omega

/-- A decimal lies between the power of ten of its leading exponent and the next one. -/
theorem value_bounds {d : Decimal} (nonzero : d.digits ≠ 0) :
    (10 : ℚ) ^ d.significant.leading ≤ d.value ∧
      d.value < (10 : ℚ) ^ (d.significant.leading + 1) := by
  have pos := digitCount_pos d.digits
  have unit : (0 : ℚ) < 10 ^ d.exponent := by positivity
  have low : (10 : ℚ) ^ (digitCount d.digits - 1) ≤ d.digits := by
    exact_mod_cast pow_digitCount_le nonzero
  have high : (d.digits : ℚ) < 10 ^ digitCount d.digits := by
    exact_mod_cast lt_pow_digitCount d.digits
  have leading : d.significant.leading = ((digitCount d.digits - 1 : ℕ) : ℤ) + d.exponent := by
    simp only [significant]
    omega
  have next : d.significant.leading + 1 = (digitCount d.digits : ℤ) + d.exponent := by
    simp only [significant]
    omega
  constructor
  · rw [leading, zpow_add₀ (by norm_num), zpow_natCast, value]
    exact mul_le_mul_of_nonneg_right low unit.le
  · rw [next, zpow_add₀ (by norm_num), zpow_natCast, value]
    exact mul_lt_mul_of_pos_right high unit

end Values

section Ticks

def exactTicks (d : Decimal) : ℚ := d.value * 10 ^ tickPlaces

theorem half_up_bounds (digits places : Nat) :
    (((digits + 5 * 10 ^ places) / 10 ^ (places + 1) : ℕ) : ℚ) ≤
        digits * (1 / 10 ^ (places + 1)) + 1 / 2 ∧
      digits * (1 / 10 ^ (places + 1)) + 1 / 2 <
        (((digits + 5 * 10 ^ places) / 10 ^ (places + 1) : ℕ) : ℚ) + 1 := by
  -- Half of the last place is five of the place behind it.
  have unit : (0 : ℚ) < 10 ^ (places + 1) := by positivity
  have low := Nat.div_mul_le_self (digits + 5 * 10 ^ places) (10 ^ (places + 1))
  have high := Nat.lt_div_mul_add (a := digits + 5 * 10 ^ places)
    (Nat.pow_pos (by decide) : 0 < 10 ^ (places + 1))
  generalize (digits + 5 * 10 ^ places) / 10 ^ (places + 1) = rounded at low high ⊢
  have sum : digits * (1 / 10 ^ (places + 1)) + 1 / 2 =
      ((digits + 5 * 10 ^ places : ℕ) : ℚ) / 10 ^ (places + 1) := by
    push_cast
    field_simp
    ring
  rw [sum, le_div_iff₀ unit, div_lt_iff₀ unit]
  constructor
  · exact_mod_cast low
  · rw [add_mul, one_mul]
    exact_mod_cast high

/-- Ticks are rounded from the value by the digit behind them. -/
theorem ticks_bounds (d : Decimal) :
    (d.ticks : ℚ) ≤ d.exactTicks + 1 / 2 ∧ d.exactTicks + 1 / 2 < d.ticks + 1 := by
  have exact : d.exactTicks = d.digits * 10 ^ (d.exponent + tickPlaces) := by
    rw [exactTicks, value, zpow_add₀ (by norm_num), zpow_natCast, mul_assoc]
  rw [exact]
  unfold ticks
  generalize d.exponent + (tickPlaces : ℤ) = shift
  simp only
  split
  next up =>
    have power : (10 : ℚ) ^ shift = 10 ^ shift.toNat := by
      conv_lhs => rw [← Int.toNat_of_nonneg up, zpow_natCast]
    rw [power]
    push_cast [Nat.pow_eq]
    constructor <;> linarith
  next down =>
    obtain ⟨places, isPlaces⟩ : ∃ places, (-shift).toNat = places + 1 :=
      Nat.exists_eq_succ_of_ne_zero (by omega)
    have power : (10 : ℚ) ^ shift = 1 / 10 ^ (places + 1) := by
      have none : shift.toNat = 0 := by omega
      rw [ten_zpow, none, isPlaces, pow_zero]
    rw [isPlaces, power]
    exact half_up_bounds d.digits places

theorem power_le_exactTicks {d : Decimal} (nonzero : d.digits ≠ 0) {exponent : ℤ}
    (le : exponent ≤ d.significant.leading) : (10 : ℚ) ^ (exponent + 28) ≤ d.exactTicks := by
  have power : (10 : ℚ) ^ exponent ≤ 10 ^ d.significant.leading :=
    zpow_le_zpow_right₀ (by norm_num) le
  rw [zpow_add₀ (by norm_num), exactTicks, tickPlaces]
  exact mul_le_mul_of_nonneg_right (power.trans (value_bounds nonzero).1) (by positivity)

theorem exactTicks_lt_power {d : Decimal} (nonzero : d.digits ≠ 0) {exponent : ℤ}
    (less : d.significant.leading < exponent) : d.exactTicks < (10 : ℚ) ^ (exponent + 28) := by
  have power : (10 : ℚ) ^ (d.significant.leading + 1) ≤ 10 ^ exponent :=
    zpow_le_zpow_right₀ (by norm_num) less
  rw [zpow_add₀ (by norm_num), exactTicks, tickPlaces]
  exact mul_lt_mul_of_pos_right ((value_bounds nonzero).2.trans_le power) (by positivity)

def greatestTicks : Nat := greatestCoefficient * Nat.pow 10 tickPlaces

theorem greatestTicks_eq : (greatestTicks : ℚ) = (2 ^ 96 - 1) * 10 ^ 28 := by
  norm_num [greatestTicks, greatestCoefficient, tickPlaces]

theorem ticks?_eq_some {d : Decimal} {ticks : Nat} (found : d.ticks? = some ticks) :
    ticks = d.ticks ∧ ticks ≤ greatestTicks ∧ (d.digits = 0 ∨ 1 ≤ d.exactTicks) := by
  have bounds := d.ticks_bounds
  have greatest := greatestTicks_eq
  simp only [ticks?] at found
  -- Written plainly, the exponent alone keeps the ticks in range; otherwise the two tests do.
  split_ifs at found with plain outside tooLarge
  · obtain rfl : d.ticks = ticks := by simpa using found
    by_cases zero : d.digits = 0
    · have none : d.exactTicks = 0 := by rw [exactTicks, (value_eq_zero_iff d).mpr zero, zero_mul]
      have small : (d.ticks : ℚ) < 1 := by linarith
      have : d.ticks < 1 := by exact_mod_cast small
      exact ⟨rfl, by omega, .inl zero⟩
    · have leading : -5 ≤ d.significant.leading ∧ d.significant.leading < 16 := by
        have within := plain.resolve_left zero
        simp only [Layout.isPlain, Layout.standard, Bool.and_eq_true] at within
        exact ⟨of_decide_eq_true within.1, Int.lt_add_one_of_le (of_decide_eq_true within.2)⟩
      have low := power_le_exactTicks zero leading.1
      have high := exactTicks_lt_power zero leading.2
      norm_num at low high greatest
      have reaches : (d.ticks : ℚ) ≤ greatestTicks := by linarith
      exact ⟨rfl, by exact_mod_cast reaches, .inr (by linarith)⟩
  · obtain rfl : d.ticks = ticks := by simpa using found
    rw [not_or] at plain outside
    have low := power_le_exactTicks plain.1 (not_lt.mp outside.1)
    norm_num at low
    exact ⟨rfl, not_lt.mp tooLarge, .inr low⟩

theorem ticks?_eq_none {d : Decimal} (missing : d.ticks? = none) :
    d.digits ≠ 0 ∧ (d.exactTicks < 1 ∨ greatestTicks < d.ticks) := by
  have bounds := d.ticks_bounds
  have greatest := greatestTicks_eq
  simp only [ticks?] at missing
  split_ifs at missing with plain outside tooLarge
  · rw [not_or] at plain
    refine ⟨plain.1, ?_⟩
    rcases outside with small | large
    · have high := exactTicks_lt_power plain.1 small
      norm_num at high
      exact .inl high
    · have low := power_le_exactTicks plain.1 (Int.add_one_le_of_lt large)
      norm_num at low greatest
      have beyond : (greatestTicks : ℚ) < d.ticks := by linarith
      exact .inr (by exact_mod_cast beyond)
  · rw [not_or] at plain
    exact ⟨plain.1, .inr tooLarge⟩

end Ticks

end Decimal

namespace Binary64

section Shortest

variable {x : Binary64}

theorem nearer_cases (place : GridPlace) :
    place.nearer = place.below ∨ place.nearer = place.below + 1 := by
  unfold GridPlace.nearer
  split_ifs <;> simp

theorem choose?_accepted {place : GridPlace} (accepts : Nat → Bool) {digits : Nat}
    (chosen : place.choose? (accepts place.below) (accepts (place.below + 1)) = some digits) :
    accepts digits = true := by
  cases lower : accepts place.below <;> cases upper : accepts (place.below + 1) <;>
    simp only [GridPlace.choose?, lower, upper, Option.some.injEq, reduceCtorEq] at chosen
  · rw [← chosen, upper]
  · rw [← chosen, lower]
  · rcases nearer_cases place with below | above
    · rw [← chosen, below, lower]
    · rw [← chosen, above, upper]

theorem onGrid?_isNearestTo {exponent : Int} {d : Decimal} (found : x.onGrid? exponent = some d) :
    x.isNearestTo d = true := by
  obtain ⟨digits, chosen, rfl⟩ := Option.map_eq_some_iff.mp found
  exact choose?_accepted (fun digits => x.isNearestTo ⟨digits, exponent⟩) chosen

/-- A fraction with a power of two below is a decimal with as many places. -/
theorem fives_num (units places : Nat) :
    (⟨units * Nat.pow 5 places, -(places : Int)⟩ : Decimal).num * Nat.pow 2 places =
      units * (⟨units * Nat.pow 5 places, -(places : Int)⟩ : Decimal).den := by
  simp only [Decimal.num, Decimal.den, Int.toNat_neg_natCast, neg_neg, Int.toNat_natCast,
    Nat.pow_eq, pow_zero, mul_one, mul_assoc, ← mul_pow]
  norm_num

theorem exactDecimal_isNearestTo (x : Binary64) : x.isNearestTo x.exactDecimal = true := by
  have exact : x.exactDecimal.num * unitsInOne = x.units * x.exactDecimal.den := by
    have cast : (-1074 : Int) = -((1074 : Nat) : Int) := rfl
    unfold exactDecimal unitsInOne
    rewrite [cast]
    generalize 1074 = places
    exact fives_num x.units places
  unfold isNearestTo
  rewrite [nearest?_exact x x.exactDecimal.den_pos exact]
  exact beq_self_eq_true _

theorem isNearestTo_shortest (x : Binary64) : x.isNearestTo x.shortest = true := by
  unfold shortest
  split
  next zero =>
    have exact : (⟨0, 0⟩ : Decimal).num * unitsInOne = x.units * (⟨0, 0⟩ : Decimal).den := by
      rw [zero, Nat.zero_mul, Decimal.num, Nat.zero_mul, Nat.zero_mul]
    rw [isNearestTo, nearest?_exact x (Decimal.den_pos _) exact]
    exact beq_self_eq_true _
  next =>
    simp only
    -- Where none of the shorter ones reads back, all the digits are written.
    cases found : (List.range 17).findSome? fun (finer : Nat) =>
        x.onGrid? (x.leadingExponent - finer) with
    | none => exact exactDecimal_isNearestTo x
    | some d =>
        obtain ⟨finer, -, onGrid⟩ := List.exists_of_findSome?_eq_some found
        exact onGrid?_isNearestTo onGrid

/-- The written form is rounded to the number that it was written for. -/
theorem nearest?_shortest (x : Binary64) :
    nearest? x.negative x.shortest.num x.shortest.den = some x := by
  simpa [isNearestTo] using isNearestTo_shortest x

theorem roundedUnits_zero (den : Nat) : roundedUnits 0 den = 0 := by
  simp [roundedUnits, gridCoefficient, roundHalfEven]

theorem shortest_digits_eq_zero_iff (x : Binary64) : x.shortest.digits = 0 ↔ x.units = 0 := by
  constructor
  · intro zero
    have units := (nearest?_eq_some (nearest?_shortest x)).2
    rw [Decimal.num, zero, Nat.zero_mul, Nat.zero_mul, roundedUnits_zero] at units
    exact units
  · intro zero
    rw [shortest, if_pos zero]

end Shortest

section Rationals

def roundedMagnitude (v : ℚ) : Nat := roundedUnits (v.num.natAbs * unitsInOne) v.den

theorem abs_eq_natAbs_div (v : ℚ) : |v| = (v.num.natAbs : ℚ) / v.den := by
  conv_lhs => rw [← Rat.num_div_den v]
  rw [abs_div, Nat.abs_cast, Nat.cast_natAbs, Int.cast_abs]

theorem roundedMagnitude_mono {v w : ℚ} (le : |v| ≤ |w|) :
    roundedMagnitude v ≤ roundedMagnitude w := by
  have pos : (0 : ℚ) < v.den := by exact_mod_cast v.den_pos
  have pos' : (0 : ℚ) < w.den := by exact_mod_cast w.den_pos
  rw [abs_eq_natAbs_div, abs_eq_natAbs_div, div_le_div_iff₀ pos pos'] at le
  have cross : v.num.natAbs * w.den ≤ w.num.natAbs * v.den := by exact_mod_cast le
  apply roundedUnits_mono v.den_pos w.den_pos
  rw [Nat.mul_right_comm, Nat.mul_right_comm _ _ v.den]
  exact Nat.mul_le_mul_right _ cross

theorem roundedMagnitude_div (num : Nat) {den : Nat} (pos : 0 < den) :
    roundedMagnitude ((num : ℚ) / den) = roundedUnits (num * unitsInOne) den := by
  generalize fraction : (num : ℚ) / den = v
  have posDen : (0 : ℚ) < den := by exact_mod_cast pos
  have posReduced : (0 : ℚ) < v.den := by exact_mod_cast v.den_pos
  have cross : v.num.natAbs * den = num * v.den := by
    have nonneg : 0 ≤ v := by
      rw [← fraction]
      positivity
    have same : (v.num.natAbs : ℚ) / v.den = num / den := by
      rw [← abs_eq_natAbs_div, abs_of_nonneg nonneg, fraction]
    rw [div_eq_div_iff posReduced.ne' posDen.ne'] at same
    exact_mod_cast same
  have units : v.num.natAbs * unitsInOne * den = num * unitsInOne * v.den := by
    rw [Nat.mul_right_comm, cross, Nat.mul_right_comm]
  exact Nat.le_antisymm (roundedUnits_mono v.den_pos pos units.le)
    (roundedUnits_mono pos v.den_pos units.ge)

theorem roundedMagnitude_neg (v : ℚ) : roundedMagnitude (-v) = roundedMagnitude v := by
  simp [roundedMagnitude]

theorem roundedMagnitude_zero : roundedMagnitude 0 = 0 := by
  simp [roundedMagnitude, roundedUnits_zero]

/-- The exponent is kept as a variable, so that the power is not computed. -/
theorem unitsInOne_power : ∃ places, places = 1074 ∧ unitsInOne = 2 ^ places := by
  obtain ⟨places, isPlaces⟩ : ∃ places, places = 1074 := ⟨_, rfl⟩
  refine ⟨places, isPlaces, ?_⟩
  unfold unitsInOne
  rewrite [← isPlaces]
  exact Nat.pow_eq

/-- A power of two whose exponent is in range is a binary64 number. -/
theorem roundedMagnitude_power {exponent : ℤ} (least : -1022 ≤ exponent)
    (greatest : exponent ≤ 1023) :
    roundedMagnitude ((2 : ℚ) ^ exponent) = 2 ^ (exponent + 1074).toNat := by
  obtain ⟨places, isPlaces, inOne⟩ := unitsInOne_power
  have pos : 0 < unitsInOne := by
    rw [inOne]
    exact Nat.two_pow_pos places
  let power : Binary64 := ⟨false, Nat.pow 2 52, (exponent + 1022).toNat, by decide,
    .inr (Nat.le_refl _), by omega⟩
  have powerUnits : power.units = 2 ^ (exponent + 1074).toNat := by
    calc 2 ^ 52 * 2 ^ (exponent + 1022).toNat = 2 ^ (52 + (exponent + 1022).toNat) := by rw [pow_add]
      _ = 2 ^ (exponent + 1074).toNat := by
        congr 1
        omega
  have quotient : (2 : ℚ) ^ exponent = (power.units : ℚ) / (unitsInOne : ℕ) := by
    have split : exponent = ((exponent + 1074).toNat : ℤ) - (places : ℤ) := by omega
    conv_lhs => rw [split]
    rw [zpow_sub₀ (by norm_num), zpow_natCast, zpow_natCast, powerUnits, inOne]
    push_cast
    rfl
  rw [quotient, roundedMagnitude_div _ pos, roundedUnits_units power pos, powerUnits]

/-- Numbers on different sides of an interval between two powers are rounded to different numbers.
-/
theorem roundedMagnitude_lt {v w : ℚ} (exponent : ℤ) (least : -1022 ≤ exponent)
    (greatest : exponent < 1023) (below : |v| ≤ 2 ^ exponent) (above : 2 ^ (exponent + 1) ≤ |w|) :
    roundedMagnitude v < roundedMagnitude w := by
  have abs_power : ∀ exponent : ℤ, |(2 : ℚ) ^ exponent| = 2 ^ exponent :=
    fun exponent => abs_of_pos (by positivity)
  calc roundedMagnitude v
      ≤ roundedMagnitude ((2 : ℚ) ^ exponent) := roundedMagnitude_mono (by rwa [abs_power])
    _ = 2 ^ (exponent + 1074).toNat := roundedMagnitude_power least (by omega)
    _ < 2 ^ (exponent + 1 + 1074).toNat := Nat.pow_lt_pow_right (by decide) (by omega)
    _ = roundedMagnitude ((2 : ℚ) ^ (exponent + 1)) :=
      (roundedMagnitude_power (by omega) (by omega)).symm
    _ ≤ roundedMagnitude w := roundedMagnitude_mono (by rwa [abs_power])

def rounded (v : ℚ) : Int := if v < 0 then -(roundedMagnitude v : Int) else roundedMagnitude v

theorem rounded_mono {v w : ℚ} (le : v ≤ w) : rounded v ≤ rounded w := by
  unfold rounded
  split_ifs with below below' below'
  · have magnitudes : roundedMagnitude w ≤ roundedMagnitude v :=
      roundedMagnitude_mono (by rw [abs_of_neg below, abs_of_neg below']; linarith)
    omega
  · omega
  · linarith
  · rw [not_lt] at below below'
    have magnitudes : roundedMagnitude v ≤ roundedMagnitude w :=
      roundedMagnitude_mono (by rwa [abs_of_nonneg below, abs_of_nonneg below'])
    omega

theorem natAbs_rounded (v : ℚ) : (rounded v).natAbs = roundedMagnitude v := by
  unfold rounded
  split
  · rw [Int.natAbs_neg, Int.natAbs_natCast]
  · rw [Int.natAbs_natCast]

theorem rounded_signed (negative : Bool) {magnitude : ℚ} (nonneg : 0 ≤ magnitude) :
    rounded (if negative then -magnitude else magnitude) =
      if negative then -(roundedMagnitude magnitude : Int) else roundedMagnitude magnitude := by
  unfold rounded
  cases negative with
  | false => simp [not_lt.mpr nonneg]
  | true =>
      rcases nonneg.eq_or_lt with rfl | pos
      · simp [roundedMagnitude_zero]
      · simp [pos, roundedMagnitude_neg]

end Rationals

section Written

def written (x : Binary64) : ℚ := if x.negative then -x.shortest.value else x.shortest.value

theorem signedUnits_eq_rounded (x : Binary64) : x.signedUnits = rounded x.written := by
  have units := (nearest?_eq_some (nearest?_shortest x)).2
  rw [← roundedMagnitude_div _ x.shortest.den_pos, ← Decimal.value_eq] at units
  rw [written, rounded_signed x.negative x.shortest.value_nonneg, signedUnits, units]

theorem written_eq_zero_iff (x : Binary64) : x.written = 0 ↔ x.units = 0 := by
  rw [← shortest_digits_eq_zero_iff, ← Decimal.value_eq_zero_iff]
  unfold written
  split <;> simp

/-- No two numbers have the same units but the two zeros. -/
theorem eq_or_zero_of_signedUnits {x y : Binary64} (same : x.signedUnits = y.signedUnits) :
    x = y ∨ x.units = 0 ∧ y.units = 0 := by
  rcases Nat.eq_zero_or_pos x.units with zero | pos
  · have zero' : y.units = 0 := by
      unfold signedUnits at same
      split_ifs at same <;> omega
    exact .inr ⟨zero, zero'⟩
  · have parts : x.negative = y.negative ∧ x.units = y.units := by
      unfold signedUnits at same
      split_ifs at same with negative negative' <;> grind
    exact .inl (eq_of_units parts.1 parts.2)

theorem written_eq_of_signedUnits {x y : Binary64} (same : x.signedUnits = y.signedUnits) :
    x.written = y.written := by
  rcases eq_or_zero_of_signedUnits same with rfl | ⟨zero, zero'⟩
  · rfl
  · rw [(written_eq_zero_iff x).mpr zero, (written_eq_zero_iff y).mpr zero']

end Written

end Binary64

end DocQuery
