import SpatialSql.Decimal.Shortest

/-!
# Layout of decimals

How a number of given digits is written: between two magnitudes with its digits
in their places, outside of them as a digit, a fraction and a power of ten. A
layout holds the decisions.
-/

namespace SpatialSql.Decimal

/-- The decisions of a way to write numbers. -/
structure Layout where
  /-- The least power of ten of the first digit for which digits stand in their
  places. -/
  leastInPlace : Int
  /-- The greatest such power. -/
  greatestInPlace : Int
  deriving DecidableEq

namespace Layout

/-- The digits in their places; a number without a fraction gets the fraction
zero. -/
def inPlace (ds : List Char) (exponent : Int) : List Char :=
  let whole := ds.length + exponent
  if 0 ≤ exponent then ds ++ List.replicate exponent.toNat '0' ++ ['.', '0']
  else if 0 < whole then ds.take whole.toNat ++ '.' :: ds.drop whole.toNat
  else '0' :: '.' :: List.replicate (-whole).toNat '0' ++ ds

/-- The first digit, the others as its fraction, and a power of ten with its
sign, which is written always. -/
def withPower (ds : List Char) (power : Int) : List Char :=
  let sign := if power < 0 then '-' else '+'
  let fraction := if ds.length ≤ 1 then [] else '.' :: ds.drop 1
  ds.take 1 ++ fraction ++ 'e' :: sign :: Nat.toDigits 10 power.natAbs

/-- The written form of a positive decimal. -/
def digits (layout : Layout) (x : Digits) : List Char :=
  let ds := Nat.toDigits 10 x.digits
  let power := x.exponent + ds.length - 1
  if layout.leastInPlace ≤ power && power ≤ layout.greatestInPlace then
    inPlace ds x.exponent
  else withPower ds power

/-- The written form of the finite double with these bits; a zero keeps its
sign. -/
def ofBits (layout : Layout) (bits : UInt64) : String :=
  let x := Binary.ofBits bits
  let magnitude :=
    if x.significand = 0 then ['0', '.', '0'] else layout.digits x.shortest
  String.ofList (if bits >>> 63 = 1 then '-' :: magnitude else magnitude)

end Layout

end SpatialSql.Decimal
