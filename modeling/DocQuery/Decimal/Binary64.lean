/-!
Finite binary64 numbers, exactly. Every finite value is a whole number of units of `2 ^ -1074`,
so magnitudes are natural numbers and comparing two values is comparing integers. Rounding a
quotient to the nearest value sends a half to the even neighbour. Powers are `Nat.pow`, so that a
statement about them means the same whatever notation for powers is in scope.
-/

namespace DocQuery

def roundHalfEven (num den : Nat) : Nat :=
  let quotient := num / den
  let twice := 2 * (num % den)
  if twice < den then quotient
  else if den < twice then quotient + 1
  else if quotient % 2 = 0 then quotient
  else quotient + 1

/-- A finite binary64 number of magnitude `coefficient * 2 ^ scale` units of `2 ^ -1074`. The
coefficient has 53 binary digits unless the scale is zero, so each magnitude has one form. -/
structure Binary64 where
  negative : Bool
  coefficient : Nat
  scale : Nat
  bounded : coefficient < Nat.pow 2 53
  normal : scale = 0 ∨ Nat.pow 2 52 ≤ coefficient
  finite : scale ≤ 2045
  deriving DecidableEq

namespace Binary64

def zero (negative : Bool) : Binary64 where
  negative := negative
  coefficient := 0
  scale := 0
  bounded := by decide
  normal := .inl rfl
  finite := by decide

def units (x : Binary64) : Nat := x.coefficient * Nat.pow 2 x.scale

def signedUnits (x : Binary64) : Int :=
  if x.negative then -(x.units : Int) else x.units

def ofParts? (negative : Bool) (coefficient scale : Nat) : Option Binary64 :=
  if valid : coefficient < Nat.pow 2 53 ∧ (scale = 0 ∨ Nat.pow 2 52 ≤ coefficient) ∧ scale ≤ 2045 then
    some ⟨negative, coefficient, scale, valid.1, valid.2.1, valid.2.2⟩
  else none

/-- The binary64 number nearest to `num / den`, a half going to the even coefficient; nothing
if that number is not finite. -/
def nearest? (negative : Bool) (num den : Nat) : Option Binary64 :=
  let num := num * Nat.pow 2 1074
  let scale := (num / den).log2 - 52
  let coefficient := roundHalfEven num (den * Nat.pow 2 scale)
  if coefficient = Nat.pow 2 53 then ofParts? negative (Nat.pow 2 52) (scale + 1)
  else ofParts? negative coefficient scale

end Binary64

/-- A non-negative decimal fraction `digits * 10 ^ exponent`. -/
structure Decimal where
  digits : Nat
  exponent : Int
  deriving DecidableEq

namespace Decimal

def num (d : Decimal) : Nat := d.digits * Nat.pow 10 d.exponent.toNat

def den (d : Decimal) : Nat := Nat.pow 10 (-d.exponent).toNat

end Decimal

def digitCount (n : Nat) : Nat := (Nat.toDigits 10 n).length

end DocQuery
