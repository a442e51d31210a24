import Mathlib.Tactic.Linarith
import Mathlib.Tactic.NormNum
import Mathlib.Tactic.Ring
import DocQuery.Decimal.Binary64

/-!
Rounding keeps the order. A quotient lies between the neighbours that it may be rounded to, and of
two quotients the greater one is rounded to the greater number or to the same. For binary64 numbers
that holds across the grids of all scales (`nearestUnits_mono`), and a quotient that is a binary64
number is rounded to itself (`nearest?_exact`).
-/

namespace DocQuery

section Integers

variable {num den num' den' : Nat}

theorem roundHalfEven_cases (num den : Nat) :
    roundHalfEven num den = num / den ∨ roundHalfEven num den = num / den + 1 := by
  simp only [roundHalfEven]
  split_ifs <;> simp

theorem le_roundHalfEven (pos : 0 < den) {bound : Nat} (le : bound * den ≤ num) :
    bound ≤ roundHalfEven num den := by
  have below : bound ≤ num / den := (Nat.le_div_iff_mul_le pos).mpr le
  rcases roundHalfEven_cases num den with same | next <;> omega

theorem roundHalfEven_le (pos : 0 < den) {bound : Nat} (le : num ≤ bound * den) :
    roundHalfEven num den ≤ bound := by
  rcases Nat.lt_or_eq_of_le le with less | rfl
  · have below : num / den < bound := (Nat.div_lt_iff_lt_mul pos).mpr less
    rcases roundHalfEven_cases num den with same | next <;> omega
  · simp [roundHalfEven, pos]

theorem roundHalfEven_mono (pos : 0 < den) (pos' : 0 < den')
    (le : num * den' ≤ num' * den) : roundHalfEven num den ≤ roundHalfEven num' den' := by
  -- Between the same neighbours the greater quotient is at least as near to the upper one, and at a
  -- tie both go to the same side.
  have quotients : num / den ≤ num' / den' := by
    rw [Nat.le_div_iff_mul_le pos']
    have floor : num / den * den ≤ num := Nat.div_mul_le_self num den
    have scaled : num / den * den' * den ≤ num' * den := by nlinarith
    exact Nat.le_of_mul_le_mul_right scaled pos
  rcases Nat.lt_or_eq_of_le quotients with less | same
  · rcases roundHalfEven_cases num den with is | is <;>
      rcases roundHalfEven_cases num' den' with is' | is' <;> omega
  · have ahead : num % den * den' ≤ num' % den' * den := by
      have split := Nat.div_add_mod num den
      have split' := Nat.div_add_mod num' den'
      rw [← split, ← split', same] at le
      nlinarith
    have upper : den ≤ 2 * (num % den) → den' ≤ 2 * (num' % den') := by
      intro half
      have scaled : den' * den ≤ 2 * (num' % den') * den := by nlinarith
      exact Nat.le_of_mul_le_mul_right scaled pos
    have above : den < 2 * (num % den) → den' < 2 * (num' % den') := by
      intro half
      have scaled : den' * den < 2 * (num' % den') * den := by nlinarith
      exact Nat.lt_of_mul_lt_mul_right scaled
    unfold roundHalfEven
    simp only [same]
    split_ifs <;> omega

end Integers

namespace Binary64

section Grids

/-- The scale of the grid on which a quotient of units is rounded. -/
def gridScale (num den : Nat) : Nat := (num / den).log2 - 52

def gridCoefficient (num den : Nat) : Nat := roundHalfEven num (den * 2 ^ gridScale num den)

def roundedUnits (num den : Nat) : Nat := gridCoefficient num den * 2 ^ gridScale num den

variable {num den num' den' : Nat}

theorem lt_of_gridScale (pos : 0 < den) : num < 2 ^ (gridScale num den + 53) * den := by
  have below : num / den < 2 ^ (gridScale num den + 53) := by
    calc num / den < 2 ^ ((num / den).log2 + 1) := Nat.lt_log2_self
      _ ≤ 2 ^ (gridScale num den + 53) := by
        apply Nat.pow_le_pow_right (by decide)
        unfold gridScale
        omega
  exact (Nat.div_lt_iff_lt_mul pos).mp below

theorem le_of_gridScale (pos : 0 < den) (scaled : 0 < gridScale num den) :
    2 ^ (gridScale num den + 52) * den ≤ num := by
  have log : (num / den).log2 = gridScale num den + 52 := by
    unfold gridScale at scaled ⊢
    omega
  have nonzero : num / den ≠ 0 := by
    intro zero
    simp [gridScale, zero] at scaled
  rw [← Nat.le_div_iff_mul_le pos, ← log]
  exact Nat.log2_self_le nonzero

theorem le_gridScale (pos : 0 < den) {scale : Nat} (le : 2 ^ (scale + 52) * den ≤ num) :
    scale ≤ gridScale num den := by
  have powers : 2 ^ (scale + 52) < 2 ^ (gridScale num den + 53) :=
    Nat.lt_of_mul_lt_mul_right (Nat.lt_of_le_of_lt le (lt_of_gridScale pos))
  have exponents := (Nat.pow_lt_pow_iff_right (by decide)).mp powers
  omega

theorem gridScale_le (pos : 0 < den) {scale : Nat} (less : num < 2 ^ (scale + 53) * den) :
    gridScale num den ≤ scale := by
  rcases Nat.eq_zero_or_pos (gridScale num den) with zero | scaled
  · omega
  · have powers : 2 ^ (gridScale num den + 52) < 2 ^ (scale + 53) :=
      Nat.lt_of_mul_lt_mul_right (Nat.lt_of_le_of_lt (le_of_gridScale pos scaled) less)
    have exponents := (Nat.pow_lt_pow_iff_right (by decide)).mp powers
    omega

theorem gridScale_mono (pos : 0 < den) (pos' : 0 < den') (le : num * den' ≤ num' * den) :
    gridScale num den ≤ gridScale num' den' := by
  rcases Nat.eq_zero_or_pos (gridScale num den) with zero | scaled
  · omega
  · apply le_gridScale pos'
    have scaledLe : 2 ^ (gridScale num den + 52) * den' * den ≤ num' * den := by
      have low := Nat.mul_le_mul_right den' (le_of_gridScale pos scaled)
      linarith
    exact Nat.le_of_mul_le_mul_right scaledLe pos

theorem gridCoefficient_le (pos : 0 < den) : gridCoefficient num den ≤ 2 ^ 53 := by
  apply roundHalfEven_le (Nat.mul_pos pos (Nat.two_pow_pos _))
  have high := (lt_of_gridScale (pos : 0 < den) : num < _)
  rw [pow_add] at high
  linarith

theorem le_gridCoefficient (pos : 0 < den) (scaled : 0 < gridScale num den) :
    2 ^ 52 ≤ gridCoefficient num den := by
  apply le_roundHalfEven (Nat.mul_pos pos (Nat.two_pow_pos _))
  have low := le_of_gridScale pos scaled
  rw [pow_add] at low
  linarith

theorem roundedUnits_mono (pos : 0 < den) (pos' : 0 < den') (le : num * den' ≤ num' * den) :
    roundedUnits num den ≤ roundedUnits num' den' := by
  -- A coarser grid starts where a finer one ends.
  unfold roundedUnits
  rcases Nat.lt_or_eq_of_le (gridScale_mono pos pos' le) with finer | same
  · calc gridCoefficient num den * 2 ^ gridScale num den
        ≤ 2 ^ 53 * 2 ^ gridScale num den := Nat.mul_le_mul_right _ (gridCoefficient_le pos)
      _ = 2 ^ 52 * 2 ^ (gridScale num den + 1) := by ring
      _ ≤ 2 ^ 52 * 2 ^ gridScale num' den' :=
        Nat.mul_le_mul_left _ (Nat.pow_le_pow_right (by decide) finer)
      _ ≤ gridCoefficient num' den' * 2 ^ gridScale num' den' :=
        Nat.mul_le_mul_right _ (le_gridCoefficient pos' (Nat.zero_lt_of_lt finer))
  · have coefficients : gridCoefficient num den ≤ gridCoefficient num' den' := by
      unfold gridCoefficient
      rw [same]
      have scale := Nat.two_pow_pos (gridScale num' den')
      apply roundHalfEven_mono (Nat.mul_pos pos scale) (Nat.mul_pos pos' scale)
      have scaled := Nat.mul_le_mul_right (2 ^ gridScale num' den') le
      linarith
    rw [same]
    exact Nat.mul_le_mul_right _ coefficients

end Grids

section Numbers

variable {num den : Nat} {negative : Bool} {x : Binary64}

theorem ofParts?_eq_some {coefficient scale : Nat}
    (found : ofParts? negative coefficient scale = some x) :
    x.negative = negative ∧ x.units = coefficient * 2 ^ scale := by
  unfold ofParts? at found
  split at found
  · cases found
    exact ⟨rfl, rfl⟩
  · cases found

def unitsInOne : Nat := Nat.pow 2 1074

theorem nearest?_eq (negative : Bool) (num den : Nat) :
    nearest? negative num den =
      if gridCoefficient (num * unitsInOne) den = 2 ^ 53 then
        ofParts? negative (2 ^ 52) (gridScale (num * unitsInOne) den + 1)
      else ofParts? negative (gridCoefficient (num * unitsInOne) den)
        (gridScale (num * unitsInOne) den) := by
  unfold nearest? unitsInOne
  generalize Nat.pow 2 1074 = one
  rfl

attribute [irreducible] unitsInOne

theorem nearest?_eq_some (found : nearest? negative num den = some x) :
    x.negative = negative ∧ x.units = roundedUnits (num * unitsInOne) den := by
  rw [nearest?_eq] at found
  unfold roundedUnits
  split at found
  next carry =>
    obtain ⟨sign, units⟩ := ofParts?_eq_some found
    rw [carry, units]
    exact ⟨sign, by ring⟩
  next => exact ofParts?_eq_some found

theorem scale_le_of_units {x y : Binary64} (same : x.units = y.units) : x.scale ≤ y.scale := by
  by_contra! finer
  have normal : 2 ^ 52 ≤ x.coefficient := x.normal.resolve_left (by omega)
  have bounded : y.coefficient < 2 ^ 53 := y.bounded
  have less : y.units < x.units := by
    calc y.coefficient * 2 ^ y.scale
        < 2 ^ 53 * 2 ^ y.scale := Nat.mul_lt_mul_of_pos_right bounded (Nat.two_pow_pos _)
      _ = 2 ^ 52 * 2 ^ (y.scale + 1) := by ring
      _ ≤ 2 ^ 52 * 2 ^ x.scale := Nat.mul_le_mul_left _ (Nat.pow_le_pow_right (by decide) finer)
      _ ≤ x.coefficient * 2 ^ x.scale := Nat.mul_le_mul_right _ normal
  omega

/-- A number is its sign and its magnitude. -/
theorem eq_of_units {x y : Binary64} (sign : x.negative = y.negative)
    (same : x.units = y.units) : x = y := by
  have scales := Nat.le_antisymm (scale_le_of_units same) (scale_le_of_units same.symm)
  have coefficients : x.coefficient = y.coefficient := by
    unfold units at same
    rw [scales] at same
    exact Nat.eq_of_mul_eq_mul_right (Nat.two_pow_pos _) same
  cases x
  cases y
  simp_all

theorem gridScale_units (x : Binary64) (pos : 0 < den) : gridScale (x.units * den) den = x.scale := by
  have bounded : x.coefficient < 2 ^ 53 := x.bounded
  apply Nat.le_antisymm
  · apply gridScale_le pos
    apply Nat.mul_lt_mul_of_pos_right _ pos
    calc x.coefficient * 2 ^ x.scale
        < 2 ^ 53 * 2 ^ x.scale := Nat.mul_lt_mul_of_pos_right bounded (Nat.two_pow_pos _)
      _ = 2 ^ (x.scale + 53) := by ring
  · rcases x.normal with zero | normal
    · omega
    · apply le_gridScale pos
      apply Nat.mul_le_mul_right
      calc 2 ^ (x.scale + 52) = 2 ^ 52 * 2 ^ x.scale := by ring
        _ ≤ x.coefficient * 2 ^ x.scale := Nat.mul_le_mul_right _ normal

theorem gridCoefficient_units (x : Binary64) (pos : 0 < den) :
    gridCoefficient (x.units * den) den = x.coefficient := by
  have scaled : x.units * den = x.coefficient * (den * 2 ^ x.scale) := by
    calc x.units * den = x.coefficient * 2 ^ x.scale * den := rfl
      _ = x.coefficient * (den * 2 ^ x.scale) := by ring
  unfold gridCoefficient
  rw [gridScale_units x pos, scaled]
  have grid := Nat.mul_pos pos (Nat.two_pow_pos x.scale)
  exact Nat.le_antisymm (roundHalfEven_le grid (Nat.le_refl _))
    (le_roundHalfEven grid (Nat.le_refl _))

theorem roundedUnits_units (x : Binary64) (pos : 0 < den) :
    roundedUnits (x.units * den) den = x.units := by
  unfold roundedUnits
  rw [gridCoefficient_units x pos, gridScale_units x pos]
  rfl

/-- A number is what its own value is rounded to, however that is written as a fraction. -/
theorem nearest?_exact (x : Binary64) (pos : 0 < den)
    (exact : num * unitsInOne = x.units * den) : nearest? x.negative num den = some x := by
  have bounded : x.coefficient ≠ 2 ^ 53 := Nat.ne_of_lt x.bounded
  rw [nearest?_eq, exact, gridCoefficient_units x pos, gridScale_units x pos, if_neg bounded]
  exact dif_pos ⟨x.bounded, x.normal, x.finite⟩

theorem nearest?_of_lt (negative : Bool) (pos : 0 < den) {exponent : Nat}
    (inRange : exponent ≤ 2097) (less : num * unitsInOne < 2 ^ exponent * den) :
    ∃ x, nearest? negative num den = some x := by
  have scaleInRange : gridScale (num * unitsInOne) den ≤ 2044 := by
    have wider : 2 ^ exponent * den ≤ 2 ^ (exponent - 53 + 53) * den :=
      Nat.mul_le_mul_right den (Nat.pow_le_pow_right (by decide) (by omega))
    have bound := gridScale_le pos (Nat.lt_of_lt_of_le less wider)
    omega
  have valid : ∀ coefficient scale, coefficient < 2 ^ 53 → (scale = 0 ∨ 2 ^ 52 ≤ coefficient) →
      scale ≤ 2045 → ∃ x, ofParts? negative coefficient scale = some x := by
    intro coefficient scale bounded normal finite
    exact ⟨⟨negative, coefficient, scale, bounded, normal, finite⟩,
      dif_pos ⟨bounded, normal, finite⟩⟩
  rw [nearest?_eq]
  split
  · exact valid _ _ (by decide) (.inr (Nat.le_refl _)) (by omega)
  next noCarry =>
    have bounded := Nat.lt_of_le_of_ne (gridCoefficient_le pos) noCarry
    refine valid _ _ bounded ?_ (by omega)
    rcases Nat.eq_zero_or_pos (gridScale (num * unitsInOne) den) with zero | scaled
    · exact .inl zero
    · exact .inr (le_gridCoefficient pos scaled)

end Numbers

end Binary64

end DocQuery
