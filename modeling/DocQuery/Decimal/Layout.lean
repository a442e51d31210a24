import DocQuery.Decimal.Shortest

/-!
The written form of a binary64 number: its shortest decimal, laid out with a point or with an
exponent.
-/

namespace DocQuery

structure Decimal.Layout where
  leastPlain : Int
  greatestPlain : Int

/-- From `10 ^ -5` up to below `10 ^ 16` a number is written with a point, otherwise with a signed
exponent. -/
def Decimal.Layout.standard : Decimal.Layout := ⟨-5, 15⟩

def Decimal.Layout.isPlain (layout : Layout) (leading : Int) : Bool :=
  layout.leastPlain ≤ leading && leading ≤ layout.greatestPlain

structure Decimal.Significant where
  digits : List Char
  leading : Int

def Decimal.significant (d : Decimal) : Significant :=
  ⟨((Nat.toDigits 10 d.digits).reverse.dropWhile (· == '0')).reverse,
    d.exponent + digitCount d.digits - 1⟩

def Decimal.Significant.plain (s : Significant) : List Char :=
  if s.leading < 0 then
    '0' :: '.' :: (List.replicate (-s.leading - 1).toNat '0' ++ s.digits)
  else
    let places := s.leading.toNat + 1
    let behind := s.digits.drop places
    s.digits.take places ++ List.replicate (places - s.digits.length) '0' ++
      '.' :: (if behind.isEmpty then ['0'] else behind)

def Decimal.Significant.scientific (s : Significant) : List Char :=
  let behind := s.digits.drop 1
  s.digits.take 1 ++ (if behind.isEmpty then [] else '.' :: behind) ++
    'e' :: (if s.leading < 0 then '-' else '+') :: Nat.toDigits 10 s.leading.natAbs

def Decimal.write (layout : Layout) (d : Decimal) : List Char :=
  let s := d.significant
  if d.digits = 0 then ['0', '.', '0']
  else if layout.isPlain s.leading then s.plain
  else s.scientific

def Binary64.write (x : Binary64) : String :=
  String.ofList ((if x.negative then ['-'] else []) ++ x.shortest.write Decimal.Layout.standard)

end DocQuery
