import DocQuery.Decimal.Layout

/-!
Bounded decimals: decimals of at most 28 places, held as a whole number of ticks of `10 ^ -28`.
A binary64 number is taken by its written form, so `0.1` is one tenth exactly.
-/

namespace DocQuery

def tickPlaces : Nat := 28

def greatestCoefficient : Nat := Nat.pow 2 96 - 1

/-- A decimal in ticks. Places behind the last tick are rounded by the first of them, five and
more going up. -/
def Decimal.ticks (d : Decimal) : Nat :=
  let shift := d.exponent + tickPlaces
  if 0 ≤ shift then d.digits * Nat.pow 10 shift.toNat
  else (d.digits + 5 * Nat.pow 10 ((-shift).toNat - 1)) / Nat.pow 10 (-shift).toNat

/-- The ticks of a written decimal. In the exponent form an exponent beyond 28 either way has no
bounded decimal, nor has a magnitude above the greatest coefficient. -/
def Decimal.ticks? (d : Decimal) : Option Nat :=
  let leading := d.significant.leading
  if d.digits = 0 ∨ Layout.standard.isPlain leading then some d.ticks
  else if leading < -28 ∨ 28 < leading then none
  else if greatestCoefficient * Nat.pow 10 tickPlaces < d.ticks then none
  else some d.ticks

def Binary64.ticks? (x : Binary64) : Option Int :=
  x.shortest.ticks?.map fun ticks => if x.negative then -(ticks : Int) else ticks

end DocQuery
