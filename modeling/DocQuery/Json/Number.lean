import DocQuery.Decimal.Bounded
import DocQuery.Decimal.Scaling

/-!
Numbers of a JSON document: integers that fit 64 bits, signed or unsigned, and finite binary64
numbers. The text decides which: a fraction, an exponent, a negative zero or an integer out of
range is binary64.
-/

namespace DocQuery.Json

def InWordRange (value : Int) : Prop :=
  -9223372036854775808 ≤ value ∧ value < 18446744073709551616

instance (value : Int) : Decidable (InWordRange value) :=
  inferInstanceAs (Decidable (_ ∧ _))

/-- A number keeps its kind: an integer and a binary64 number of the same value are different. -/
inductive Number where
  | integer (value : Int) (inRange : InWordRange value)
  | real (value : Binary64)
  deriving DecidableEq

def appendDigit (value : Nat) (digit : Char) : Nat := 10 * value + (digit.toNat - '0'.toNat)

def digitsValue (digits : List Char) : Nat := digits.foldl appendDigit 0

structure Numeral where
  negative : Bool
  whole : List Char
  fraction : Option (List Char)
  exponent : Option Int

namespace Numeral

def digits? (text : List Char) : Option (List Char × List Char) :=
  match text.takeWhile Char.isDigit with
  | [] => none
  | digits => some (digits, text.dropWhile Char.isDigit)

def whole? (text : List Char) : Option (List Char × List Char) :=
  match digits? text with
  | some ('0' :: _ :: _, _) => none
  | found => found

def fraction? : List Char → Option (Option (List Char) × List Char)
  | '.' :: text => (digits? text).map fun (digits, rest) => (some digits, rest)
  | text => some (none, text)

def exponentDigits? (negative : Bool) (text : List Char) : Option (Option Int × List Char) :=
  (digits? text).map fun (digits, rest) =>
    (some (if negative then -(digitsValue digits : Int) else digitsValue digits), rest)

def exponent? : List Char → Option (Option Int × List Char)
  | 'e' :: '-' :: text | 'E' :: '-' :: text => exponentDigits? true text
  | 'e' :: '+' :: text | 'E' :: '+' :: text => exponentDigits? false text
  | 'e' :: text | 'E' :: text => exponentDigits? false text
  | text => some (none, text)

def unsigned? (negative : Bool) (text : List Char) : Option Numeral := do
  let (whole, rest) ← whole? text
  let (fraction, rest) ← fraction? rest
  let (exponent, rest) ← exponent? rest
  if rest.isEmpty then some ⟨negative, whole, fraction, exponent⟩ else none

def read? : List Char → Option Numeral
  | '-' :: text => unsigned? true text
  | text => unsigned? false text

/-- Appends digits to a value as long as it stays below `2 ^ 64`. The digits from the first that
does not fit are left over. -/
def fill (value : Nat) : List Char → Nat × List Char
  | [] => (value, [])
  | digit :: rest =>
      let next := appendDigit value digit
      if next < 18446744073709551616 then fill next rest else (value, digit :: rest)

/-- The magnitude as a decimal whose digits fit 64 bits. A digit of the whole part that is left
over counts as a zero; the fraction goes on where the whole part ended, and its own leftover is
dropped. -/
def magnitude (n : Numeral) : Decimal :=
  let whole := fill 0 n.whole
  let places := n.fraction.getD []
  let all := fill whole.1 places
  ⟨all.1, n.exponent.getD 0 + whole.2.length + all.2.length - places.length⟩

def real? (n : Numeral) : Option Number :=
  (Binary64.ofDecimal? n.negative n.magnitude).map Number.real

def value? (n : Numeral) : Option Number :=
  match n.fraction, n.exponent with
  | none, none =>
      let magnitude := digitsValue n.whole
      if n.negative ∧ magnitude = 0 then n.real?
      else
        let value : Int := if n.negative then -(magnitude : Int) else magnitude
        if inRange : InWordRange value then some (.integer value inRange) else n.real?
  | _, _ => n.real?

end Numeral

namespace Number

def read? (text : List Char) : Option Number :=
  (Numeral.read? text).bind Numeral.value?

def write : Number → String
  | .integer value _ => value.repr
  | .real value => value.write

def ticks? : Number → Option Int
  | .integer value _ => some (value * Nat.pow 10 tickPlaces)
  | .real value => value.ticks?

def binaryUnits : Number → Int
  | .integer value _ =>
      ((Binary64.nearest? (value < 0) value.natAbs 1).map Binary64.signedUnits).getD 0
  | .real value => value.signedUnits

/-- The order of numbers: that of their bounded decimals if both have one, and otherwise that of
their binary64 values. -/
def order (a b : Number) : Ordering :=
  match a.ticks?, b.ticks? with
  | some a, some b => compare a b
  | _, _ => compare a.binaryUnits b.binaryUnits

def same : Number → Number → Bool
  | .integer a _, .integer b _ => a == b
  | .real a, .real b => a.signedUnits == b.signedUnits
  | _, _ => false

end Number

end DocQuery.Json
