import Mathlib.Order.Compare
import DocQuery.Evaluation.Matching
import DocQuery.Json.Number
import DocQuery.Proofs.Decimal.Written

/-!
Numbers are totally preordered, although two of them are compared by their ticks or by their binary64
values, whichever both have. Each number has a rank among the rationals: its ticks, or its own value
in ticks if it has none. A value without ticks is smaller than a tick or greater than all ticks, so
that it stands among ticks as it stands among values, and the order of two numbers is always that of
their ranks (`order_eq_compare`).
-/

namespace DocQuery.Json.Number

open Binary64 Decimal

section Values

def value : Number → ℚ
  | .integer value _ => value
  | .real value => value.written

def exactTicks (a : Number) : ℚ := a.value * 10 ^ tickPlaces

theorem integer_nearest {value : Int} (inRange : InWordRange value) :
    ∃ x, Binary64.nearest? (value < 0) value.natAbs 1 = some x := by
  obtain ⟨places, isPlaces, inOne⟩ := unitsInOne_power
  have bounded : value.natAbs < 2 ^ 65 := by
    obtain ⟨low, high⟩ := inRange
    omega
  have less : value.natAbs * unitsInOne < 2 ^ (65 + places) * 1 := by
    rw [inOne, Nat.mul_one, pow_add]
    exact Nat.mul_lt_mul_of_pos_right bounded (Nat.two_pow_pos places)
  exact nearest?_of_lt _ Nat.one_pos (by omega) less

theorem integer_signed (value : Int) :
    (value : ℚ) = if decide (value < 0) then -(value.natAbs : ℚ) else value.natAbs := by
  rcases lt_or_ge value 0 with negative | nonneg
  · rw [if_pos (decide_eq_true negative), Nat.cast_natAbs, abs_of_neg negative]
    simp
  · rw [if_neg (by simpa using nonneg), Nat.cast_natAbs, abs_of_nonneg nonneg]

theorem binaryUnits_eq_rounded (a : Number) : a.binaryUnits = rounded a.value := by
  cases a with
  | real x => exact signedUnits_eq_rounded x
  | integer value inRange =>
      obtain ⟨x, found⟩ := integer_nearest inRange
      obtain ⟨sign, units⟩ := nearest?_eq_some found
      have magnitude : roundedMagnitude value.natAbs = x.units := by
        rw [units, ← roundedMagnitude_div value.natAbs Nat.one_pos, Nat.cast_one, div_one]
      simp only [binaryUnits, found, Option.map_some, Option.getD_some, Number.value]
      rw [integer_signed, rounded_signed _ (Nat.cast_nonneg _), magnitude, signedUnits, sign]

end Values

section Ticks

inductive WithinTicks (v : ℚ) (ticks : Int) : Prop where
  | zero (isZero : v = 0) (none : ticks = 0)
  | positive (low : 1 ≤ v) (high : v < greatestTicks + 1 / 2) (least : 1 ≤ ticks)
      (greatest : ticks ≤ greatestTicks)
  | negative (high : v ≤ -1) (low : -(greatestTicks + 1 / 2 : ℚ) < v) (greatest : ticks ≤ -1)
      (least : -(greatestTicks : Int) ≤ ticks)

def BeyondTicks (v : ℚ) : Prop := v ≠ 0 ∧ (|v| < 1 ∨ greatestTicks + 1 / 2 ≤ |v|)

theorem WithinTicks.neg {v : ℚ} {ticks : Int} (within : WithinTicks v ticks) :
    WithinTicks (-v) (-ticks) := by
  cases within with
  | zero isZero none => exact .zero (by simp [isZero]) (by simp [none])
  | positive low high least greatest =>
      exact .negative (by linarith) (by linarith) (by omega) (by omega)
  | negative high low greatest least =>
      exact .positive (by linarith) (by linarith) (by omega) (by omega)

theorem decimal_within {d : Decimal} {ticks : Nat} (found : d.ticks? = some ticks) :
    WithinTicks d.exactTicks ticks := by
  obtain ⟨rfl, greatest, zero | low⟩ := ticks?_eq_some found
  · have none : d.exactTicks = 0 := by
      rw [Decimal.exactTicks, (value_eq_zero_iff d).mpr zero, zero_mul]
    have small : (d.ticks : ℚ) < 1 := by linarith [d.ticks_bounds.1]
    have isZero : d.ticks < 1 := by exact_mod_cast small
    exact .zero none (by omega)
  · obtain ⟨below, above⟩ := d.ticks_bounds
    have atLeast : (0 : ℚ) < d.ticks := by linarith
    have atMost : (d.ticks : ℚ) ≤ greatestTicks := by exact_mod_cast greatest
    exact .positive low (by linarith) (by exact_mod_cast atLeast) (by exact_mod_cast greatest)

theorem integer_within {ticks : Int} (bounded : |ticks| ≤ greatestTicks) :
    WithinTicks ticks ticks := by
  obtain ⟨least, greatest⟩ := abs_le.mp bounded
  have low : -(greatestTicks : ℚ) ≤ ticks := by exact_mod_cast least
  have high : (ticks : ℚ) ≤ greatestTicks := by exact_mod_cast greatest
  rcases lt_trichotomy ticks 0 with negative | rfl | positive
  · have below : ticks ≤ -1 := by omega
    exact .negative (by exact_mod_cast below) (by linarith) below least
  · exact .zero rfl rfl
  · have above : 1 ≤ ticks := by omega
    exact .positive (by exact_mod_cast above) (by linarith) above greatest

theorem written_exactTicks (x : Binary64) :
    x.written * 10 ^ tickPlaces =
      if x.negative then -x.shortest.exactTicks else x.shortest.exactTicks := by
  unfold written Decimal.exactTicks
  split <;> ring

theorem real_ticks? (x : Binary64) :
    x.ticks? = x.shortest.ticks?.map fun (ticks : Nat) =>
      if x.negative then -(ticks : Int) else (ticks : Int) := by
  unfold Binary64.ticks?
  cases x.shortest.ticks? <;> rfl

theorem ticks?_within {a : Number} {ticks : Int} (found : a.ticks? = some ticks) :
    WithinTicks a.exactTicks ticks := by
  cases a with
  | real x =>
      rw [Number.ticks?, real_ticks?] at found
      obtain ⟨magnitude, held, rfl⟩ := Option.map_eq_some_iff.mp found
      have within := decimal_within held
      rw [exactTicks, Number.value, written_exactTicks]
      split
      · exact within.neg
      · exact within
  | integer value inRange =>
      cases found
      obtain ⟨low, high⟩ := inRange
      have exactly : exactTicks (.integer value ⟨low, high⟩) =
          ((value * Nat.pow 10 tickPlaces : Int) : ℚ) := by
        simp [exactTicks, Number.value]
      rw [exactly]
      apply integer_within
      rw [abs_le]
      norm_num [greatestTicks, greatestCoefficient, tickPlaces]
      constructor <;> omega

theorem ticks?_beyond {a : Number} (missing : a.ticks? = none) :
    ∃ x, a = .real x ∧ BeyondTicks a.exactTicks := by
  cases a with
  | integer value inRange => cases missing
  | real x =>
      rw [Number.ticks?, real_ticks?, Option.map_eq_none_iff] at missing
      obtain ⟨nonzero, size⟩ := ticks?_eq_none missing
      have pos : 0 < x.shortest.exactTicks := by
        have nonneg := x.shortest.value_nonneg
        have differs : x.shortest.value ≠ 0 := (value_eq_zero_iff x.shortest).not.mpr nonzero
        exact mul_pos (lt_of_le_of_ne nonneg differs.symm) (by positivity)
      have magnitude : |exactTicks (.real x)| = x.shortest.exactTicks := by
        rw [exactTicks, Number.value, written_exactTicks]
        split
        · rw [abs_neg, abs_of_pos pos]
        · rw [abs_of_pos pos]
      refine ⟨x, rfl, abs_pos.mp (magnitude ▸ pos), ?_⟩
      rw [magnitude]
      rcases size with small | large
      · exact .inl small
      · have reaches : (greatestTicks : ℚ) + 1 ≤ x.shortest.ticks := by exact_mod_cast large
        exact .inr (by linarith [x.shortest.ticks_bounds.1])

/-- A value without ticks is on the same side of ticks as of the value that they were rounded from.
-/
theorem WithinTicks.lt_iff {v w : ℚ} {ticks : Int} (within : WithinTicks v ticks)
    (beyond : BeyondTicks w) : ((ticks : ℚ) < w ↔ v < w) ∧ (w < ticks ↔ w < v) := by
  obtain ⟨nonzero, size⟩ := beyond
  -- Rounding to ticks crosses neither zero nor the last tick, and beyond these there are no ticks.
  have sides : (w < ticks ∧ w < v) ∨ ((ticks : ℚ) < w ∧ v < w) := by
    cases within with
    | zero isZero none =>
        rw [isZero, none, Int.cast_zero]
        rcases lt_or_gt_of_ne nonzero with negative | positive
        · exact .inl ⟨negative, negative⟩
        · exact .inr ⟨positive, positive⟩
    | positive low high least greatest =>
        have least : (1 : ℚ) ≤ ticks := by exact_mod_cast least
        have greatest : (ticks : ℚ) ≤ greatestTicks := by exact_mod_cast greatest
        rcases size with small | large
        · have below := (abs_lt.mp small).2
          exact .inl ⟨by linarith, by linarith⟩
        · rcases le_abs.mp large with above | below
          · exact .inr ⟨by linarith, by linarith⟩
          · exact .inl ⟨by linarith, by linarith⟩
    | negative high low greatest least =>
        have greatest : (ticks : ℚ) ≤ -1 := by exact_mod_cast greatest
        have least : -(greatestTicks : ℚ) ≤ ticks := by exact_mod_cast least
        rcases size with small | large
        · have above := (abs_lt.mp small).1
          exact .inr ⟨by linarith, by linarith⟩
        · rcases le_abs.mp large with above | below
          · exact .inr ⟨by linarith, by linarith⟩
          · exact .inl ⟨by linarith, by linarith⟩
  rcases sides with ⟨left, left'⟩ | ⟨right, right'⟩
  · exact ⟨iff_of_false left.not_gt left'.not_gt, iff_of_true left left'⟩
  · exact ⟨iff_of_true right right', iff_of_false right.not_gt right'.not_gt⟩

end Ticks

section Order

variable {x : Binary64}

theorem integer_abs_le {value : Int} (inRange : InWordRange value) : |(value : ℚ)| ≤ 2 ^ 64 := by
  obtain ⟨low, high⟩ := inRange
  have bounded : |value| ≤ 2 ^ 64 := by
    rw [abs_le]
    omega
  exact_mod_cast bounded

/-- No integer of 64 bits is rounded to where a number without ticks is. -/
theorem integer_ne_binaryUnits {value : Int} (inRange : InWordRange value)
    (beyond : BeyondTicks (exactTicks (.real x))) : rounded value ≠ rounded x.written := by
  -- There is room for a power of two between an integer and a number without ticks.
  intro same
  have magnitudes : roundedMagnitude value = roundedMagnitude x.written := by
    rw [← natAbs_rounded, ← natAbs_rounded, same]
  have greatest := greatestTicks_eq
  obtain ⟨nonzero, size⟩ := beyond
  rw [exactTicks, Number.value, abs_mul, abs_of_pos (by positivity : (0 : ℚ) < 10 ^ tickPlaces),
    tickPlaces] at size
  rcases size with small | large
  · by_cases zero : value = 0
    · rw [zero, Int.cast_zero, roundedMagnitude_zero, ← natAbs_rounded,
        ← signedUnits_eq_rounded] at magnitudes
      have units : x.units = 0 := by
        unfold signedUnits at magnitudes
        split at magnitudes <;> omega
      rw [exactTicks, Number.value, (written_eq_zero_iff x).mpr units, zero_mul] at nonzero
      exact nonzero rfl
    · have whole : (1 : ℚ) ≤ |(value : ℚ)| := by exact_mod_cast Int.one_le_abs zero
      have less : roundedMagnitude x.written < roundedMagnitude value :=
        roundedMagnitude_lt (-1) (by norm_num) (by norm_num) (by norm_num at small ⊢; linarith)
          (by norm_num; exact whole)
      omega
  · have less : roundedMagnitude value < roundedMagnitude x.written :=
      roundedMagnitude_lt 64 (by norm_num) (by norm_num) (by exact_mod_cast integer_abs_le inRange)
        (by norm_num at large greatest ⊢; linarith)
    omega

theorem binaryUnits_ne {a : Number} (beyond : BeyondTicks (exactTicks (.real x)))
    (differ : a.value ≠ x.written) : a.binaryUnits ≠ binaryUnits (.real x) := by
  cases a with
  | real y => exact fun same => differ (written_eq_of_signedUnits same)
  | integer value inRange =>
      rw [binaryUnits_eq_rounded, binaryUnits_eq_rounded]
      exact integer_ne_binaryUnits inRange beyond

theorem binaryUnits_lt {a b : Number} (less : a.value < b.value)
    (differ : a.binaryUnits ≠ b.binaryUnits) : a.binaryUnits < b.binaryUnits := by
  rw [binaryUnits_eq_rounded, binaryUnits_eq_rounded] at differ ⊢
  exact lt_of_le_of_ne (rounded_mono less.le) differ

/-- A number without ticks is compared by value with every other number. -/
theorem binaryUnits_lt_iff (a : Number) (beyond : BeyondTicks (exactTicks (.real x))) :
    (a.binaryUnits < binaryUnits (.real x) ↔ a.value < x.written) ∧
      (binaryUnits (.real x) < a.binaryUnits ↔ x.written < a.value) := by
  rcases lt_trichotomy a.value x.written with less | same | more
  · have units : a.binaryUnits < binaryUnits (.real x) :=
      binaryUnits_lt less (binaryUnits_ne beyond less.ne)
    exact ⟨iff_of_true units less, iff_of_false units.not_gt less.not_gt⟩
  · have units : a.binaryUnits = binaryUnits (.real x) := by
      rw [binaryUnits_eq_rounded, binaryUnits_eq_rounded, same]
      rfl
    rw [units, same]
    exact ⟨iff_of_false (lt_irrefl _) (lt_irrefl _), iff_of_false (lt_irrefl _) (lt_irrefl _)⟩
  · have units : binaryUnits (.real x) < a.binaryUnits :=
      binaryUnits_lt more (binaryUnits_ne beyond more.ne').symm
    exact ⟨iff_of_false units.not_gt more.not_gt, iff_of_true units more⟩

theorem exactTicks_lt_iff (a b : Number) : a.exactTicks < b.exactTicks ↔ a.value < b.value :=
  mul_lt_mul_iff_left₀ (by positivity)

/-- The ticks of a number, or its own value in ticks if it has none. -/
def rank (a : Number) : ℚ :=
  match a.ticks? with
  | some ticks => ticks
  | none => a.exactTicks

theorem compare_eq_compare {α β : Type} [LinearOrder α] [LinearOrder β] {a b : α} {c d : β}
    (lt : a < b ↔ c < d) (gt : b < a ↔ d < c) : compare a b = compare c d := by
  rcases lt_trichotomy a b with less | same | more
  · rw [compare_lt_iff_lt.mpr less, compare_lt_iff_lt.mpr (lt.mp less)]
  · have same' : c = d := by
      apply le_antisymm
      · exact not_lt.mp fun more => (gt.mpr more).ne same.symm
      · exact not_lt.mp fun less => (lt.mpr less).ne same
    rw [compare_eq_iff_eq.mpr same, compare_eq_iff_eq.mpr same']
  · rw [compare_gt_iff_gt.mpr more, compare_gt_iff_gt.mpr (gt.mp more)]

/-- Numbers are in the order of their ranks. -/
theorem order_eq_compare (a b : Number) : a.order b = compare a.rank b.rank := by
  -- Where one of the two has no ticks, the binary64 values, the values and the ranks agree.
  unfold order rank
  cases ticks : a.ticks? with
  | some held =>
      cases ticks' : b.ticks? with
      | some held' => exact compare_eq_compare Int.cast_lt.symm Int.cast_lt.symm
      | none =>
          obtain ⟨x, rfl, beyond⟩ := ticks?_beyond ticks'
          obtain ⟨lt, gt⟩ := (ticks?_within ticks).lt_iff beyond
          obtain ⟨ltUnits, gtUnits⟩ := binaryUnits_lt_iff a beyond
          rw [exactTicks_lt_iff] at lt gt
          exact compare_eq_compare (ltUnits.trans lt.symm) (gtUnits.trans gt.symm)
  | none =>
      obtain ⟨x, rfl, beyond⟩ := ticks?_beyond ticks
      obtain ⟨gtUnits, ltUnits⟩ := binaryUnits_lt_iff b beyond
      cases ticks' : b.ticks? with
      | some held' =>
          obtain ⟨gt, lt⟩ := (ticks?_within ticks').lt_iff beyond
          rw [exactTicks_lt_iff] at lt gt
          exact compare_eq_compare (ltUnits.trans lt.symm) (gtUnits.trans gt.symm)
      | none =>
          exact compare_eq_compare (ltUnits.trans (exactTicks_lt_iff (.real x) b).symm)
            (gtUnits.trans (exactTicks_lt_iff b (.real x)).symm)

theorem order_swap (a b : Number) : b.order a = (a.order b).swap := by
  rw [order_eq_compare, order_eq_compare]
  exact Std.OrientedCmp.eq_swap

theorem order_trans {a b c : Number} (le : a.order b ≠ .gt) (le' : b.order c ≠ .gt) :
    a.order c ≠ .gt ∧ (a.order b = .lt ∨ b.order c = .lt → a.order c = .lt) := by
  simp only [order_eq_compare, compare_le_iff_le, compare_lt_iff_lt] at le le' ⊢
  refine ⟨le.trans le', ?_⟩
  rintro (less | less)
  · exact less.trans_le le'
  · exact le.trans_lt less

theorem order_integers {m n : Int} (inRange : InWordRange m) (inRange' : InWordRange n) :
    order (.integer m inRange) (.integer n inRange') = compare m n := by
  have unit : (0 : Int) < Nat.pow 10 tickPlaces := by decide
  exact compare_eq_compare (mul_lt_mul_iff_left₀ unit) (mul_lt_mul_iff_left₀ unit)

end Order

section Filters

def comparisons : List Operator :=
  [.lessThan, .equalTo, .greaterThan, .lessThanOrEqualTo, .greaterThanOrEqualTo]

/-- What the comparing filters say of two numbers: just one of `<`, `=` and `>` accepts them, and the
other two are the negations of `<` and `>`. -/
structure Verdicts (a b : Number) (verdict : Operator → Bool) : Prop where
  given : ∀ operator ∈ comparisons,
    operator.apply (some (.number a)) (.number b) = .ok (verdict operator)
  oneOfThree : [verdict .lessThan, verdict .equalTo, verdict .greaterThan].count true = 1
  notLess : verdict .greaterThanOrEqualTo = !verdict .lessThan
  notGreater : verdict .lessThanOrEqualTo = !verdict .greaterThan

theorem exists_verdicts (a b : Number) : ∃ verdict, Verdicts a b verdict := by
  let verdict : Operator → Bool
    | .lessThan => a.order b == .lt
    | .equalTo => a.order b == .eq
    | .greaterThan => a.order b == .gt
    | .lessThanOrEqualTo => (a.order b).isLE
    | .greaterThanOrEqualTo => (a.order b).isGE
    | _ => false
  refine ⟨verdict, ?_, ?_, ?_, ?_⟩
  · simp [comparisons, Operator.apply, Json.equals, Json.order?, verdict]
  all_goals
    simp only [verdict]
    cases a.order b <;> rfl

end Filters

/-- Numbers of either kind are totally preordered by the order that filters use, and integers by their
exact values. The binary64 number that an integer is compared by is always there. -/
theorem order_isTotalPreorder :
    (∀ a b : Number, Json.order? (.number a) (.number b) = some (a.order b)) ∧
    (∀ a b : Number, b.order a = (a.order b).swap) ∧
    (∀ a b c : Number, a.order b ≠ .gt → b.order c ≠ .gt →
      a.order c ≠ .gt ∧ (a.order b = .lt ∨ b.order c = .lt → a.order c = .lt)) ∧
    (∀ (m n : Int) (inRange : InWordRange m) (inRange' : InWordRange n),
      order (.integer m inRange) (.integer n inRange') = compare m n) ∧
    (∀ value : Int, InWordRange value →
      ∃ x, Binary64.nearest? (value < 0) value.natAbs 1 = some x) ∧
    (∀ a b : Number, ∃ verdict, Verdicts a b verdict) :=
  ⟨fun _ _ => rfl, order_swap, fun _ _ _ => order_trans, fun _ _ => order_integers,
    fun _ => integer_nearest, exists_verdicts⟩

/-- The numbers nearest to `1e-29`, `2.5e-28` and `3e-28`. The first has no ticks, and the others
have three each. -/
def withoutTicks : Number :=
  .real ⟨false, 7136238463529799, 925, by decide, .inr (by decide), by decide⟩

def roundedUp : Number :=
  .real ⟨false, 5575186299632656, 930, by decide, .inr (by decide), by decide⟩

def threeTicks : Number :=
  .real ⟨false, 6690223559559187, 930, by decide, .inr (by decide), by decide⟩

theorem withoutTicks_below_threeTicks :
    withoutTicks.order roundedUp = .lt ∧ roundedUp.order threeTicks = .eq ∧
      withoutTicks.order threeTicks = .lt := by
  have less : withoutTicks.order roundedUp = .lt := by decide +kernel
  have same : roundedUp.order threeTicks = .eq := by decide +kernel
  obtain ⟨-, -, transitive, -⟩ := order_isTotalPreorder
  have chain := transitive withoutTicks roundedUp threeTicks (by simp [less]) (by simp [same])
  exact ⟨less, same, chain.2 (.inl less)⟩

end DocQuery.Json.Number
