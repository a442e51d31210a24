import DocQuery.Decimal.Binary64

/-!
Binary64 numbers from decimals, by scaling. The digits are rounded to binary64, and so is the power
of ten by which they are then multiplied or divided, with a result that is rounded again. For
digits below `2 ^ 53` and powers up to `10 ^ 22`, which are exact, that is the nearest number.
Otherwise it may be a neighbour of it, and two decimals of one value may give two numbers: ten
divided by `10 ^ 30` is less than one divided by `10 ^ 29`.
-/

namespace DocQuery.Binary64

def mul? (x y : Binary64) : Option Binary64 :=
  nearest? (x.negative != y.negative) (x.units * y.units) (Nat.pow 2 2148)

def div? (x y : Binary64) : Option Binary64 :=
  nearest? (x.negative != y.negative) x.units y.units

def greatestPower : Nat := 308

def powerOfTen? (exponent : Nat) : Option Binary64 :=
  if exponent ≤ greatestPower then nearest? false (Nat.pow 10 exponent) 1 else none

def scaleUp? (x : Binary64) (exponent : Nat) : Option Binary64 :=
  if x.units = 0 then some x else (powerOfTen? exponent).bind x.mul?

/-- The number divided by a power of ten, in as many steps as given beyond the greatest finite
power. When the steps run out, zero is left. -/
def scaleDown? (x : Binary64) (exponent : Nat) : Nat → Option Binary64
  | 0 => some (zero x.negative)
  | steps + 1 =>
      if exponent ≤ greatestPower then (powerOfTen? exponent).bind x.div?
      else ((powerOfTen? greatestPower).bind x.div?).bind fun quotient =>
        quotient.scaleDown? (exponent - greatestPower) steps

/-- Divided three times by the greatest finite power of ten, every number is rounded to zero. -/
def stepsToZero : Nat := 3

def ofDecimal? (negative : Bool) (d : Decimal) : Option Binary64 :=
  (nearest? negative d.digits 1).bind fun x =>
    if 0 ≤ d.exponent then x.scaleUp? d.exponent.toNat
    else x.scaleDown? (-d.exponent).toNat stepsToZero

end DocQuery.Binary64
