import DocQuery.Decimal.Binary64

/-!
The shortest decimal of a binary64 number: among the decimals to which no other binary64 number is
nearer, one with the fewest digits, and of these the nearest one, a tie going to the even last digit.
Decimals are tried on grids `10 ^ exponent` that get finer by one digit at a time.
-/

namespace DocQuery

namespace Binary64

def leadingExponent (x : Binary64) : Int :=
  digitCount (x.units * Nat.pow 10 400 / Nat.pow 2 1074) - 401

def isNearestTo (x : Binary64) (d : Decimal) : Bool :=
  nearest? x.negative d.num d.den == some x

/-- The neighbours of the magnitude on the grid `10 ^ exponent` are the multiples `below` and
`below + 1`; `ahead` and `span` give its place between them as `ahead / span`. -/
structure GridPlace where
  below : Nat
  ahead : Nat
  span : Nat

def gridPlace (x : Binary64) (exponent : Int) : GridPlace :=
  let num := x.units * Nat.pow 10 (-exponent).toNat
  let den := Nat.pow 2 1074 * Nat.pow 10 exponent.toNat
  ⟨num / den, num % den, den⟩

def GridPlace.nearer (place : GridPlace) : Nat :=
  if 2 * place.ahead < place.span then place.below
  else if place.span < 2 * place.ahead then place.below + 1
  else if place.below % 2 = 0 then place.below
  else place.below + 1

def GridPlace.choose? (place : GridPlace) (lower upper : Bool) : Option Nat :=
  match lower, upper with
  | true, true => some place.nearer
  | true, false => some place.below
  | false, true => some (place.below + 1)
  | false, false => none

def onGrid? (x : Binary64) (exponent : Int) : Option Decimal :=
  let place := x.gridPlace exponent
  let isNearest (digits : Nat) : Bool := x.isNearestTo ⟨digits, exponent⟩
  (place.choose? (isNearest place.below) (isNearest (place.below + 1))).map (⟨·, exponent⟩)

def exactDecimal (x : Binary64) : Decimal := ⟨x.units * Nat.pow 5 1074, -1074⟩

/-- The shortest decimal of the magnitude. Seventeen digits are enough; should none of the grids
hold a decimal that is rounded to the number, the exact value is. -/
def shortest (x : Binary64) : Decimal :=
  if x.units = 0 then ⟨0, 0⟩
  else
    let top := x.leadingExponent
    ((List.range 17).findSome? fun (finer : Nat) => x.onGrid? (top - finer)).getD x.exactDecimal

end Binary64

end DocQuery
