import SpatialSql.Decimal.Layout
import SpatialSql.Json.Fault

/-!
# Numbers of a JSON document

A whole number is kept exactly while it fits 64 bits, with or without sign;
every other number is a double. The double is found from the digits that fit 64
bits, the further ones counting for their place only, by one product or quotient
with a power of ten.
-/

namespace SpatialSql.Json

/-- The value of a number. -/
inductive Number
  /-- A whole number from 0 to 2^64 - 1. -/
  | natural (n : Nat)
  /-- The number `-n`, from -1 to -2^63. -/
  | negative (n : Nat)
  /-- A double, which is finite. -/
  | real (x : Float)
  deriving DecidableEq

namespace Number

/-- In messages the first digit of a double stands in its place from the fifth
place after the point to the sixteenth before it; outside of them a power of ten
is written. -/
def layout : Decimal.Layout :=
  ⟨-5, 15⟩

/-- The number as messages describe it. -/
def describe : Number → String
  | natural n => "integer `" ++ toString n ++ "`"
  | negative n => "integer `-" ++ toString n ++ "`"
  | real x => "floating point `" ++ layout.ofBits x.toBits ++ "`"

/-- The digits read so far: those that fit 64 bits as a number, and the power of
ten that it is to be scaled by. -/
structure Significand where
  value : Nat
  power : Int
  deriving DecidableEq

/-- The value of a decimal digit. -/
def digitValue (c : Char) : Nat :=
  c.toNat - '0'.toNat

/-- Whole numbers of 64 bits lie below this bound. -/
def wordBound : Nat :=
  0x10000000000000000

/-- Takes the digits before the point. From the first one on that does not fit,
each is only a factor of ten. -/
def Significand.takeWhole (s : Significand) : List Char → Significand
  | [] => s
  | c :: cs =>
    if s.value * 10 + digitValue c < wordBound then
      takeWhole ⟨s.value * 10 + digitValue c, s.power⟩ cs
    else ⟨s.value, s.power + (c :: cs).length⟩

/-- Takes the digits after the point. From the first one on that does not fit,
they are dropped. -/
def Significand.takeFraction (s : Significand) : List Char → Significand
  | [] => s
  | c :: cs =>
    if s.value * 10 + digitValue c < wordBound then
      takeFraction ⟨s.value * 10 + digitValue c, s.power - 1⟩ cs
    else s

/-- The double `10 ^ k`; the greatest power of ten among the doubles is `10 ^
308`. -/
def powerOfTen (k : Nat) : Float :=
  Float.ofScientific 1 false k

/-- The quotient by `10 ^ k`, in as many steps as the powers of ten among the
doubles make needed. -/
def divideByPower (x : Float) (k : Nat) : Float :=
  if _h : k ≤ 308 then x / powerOfTen k
  else if x == 0 then x
  else divideByPower (x / powerOfTen 308) (k - 308)
termination_by k

/-- The absolute value of the double; one that is too great for a double is a
fault. -/
def Significand.magnitude (s : Significand) : Except Fault Float :=
  let x := Float.ofNat s.value
  if s.power < 0 then .ok (divideByPower x s.power.natAbs)
  else if s.value = 0 then .ok x
  else if 308 < s.power then .error .numberOutOfRange
  else
    let scaled := x * powerOfTen s.power.toNat
    if scaled.isInf then .error .numberOutOfRange else .ok scaled

/-- The double with a sign. -/
def ofSignificand (isNegative : Bool) (s : Significand) : Except Fault Number :=
  s.magnitude.map fun x => real (if isNegative then -x else x)

/-- The value of a whole number written without fraction and power of ten.
Outside of the 64-bit ranges it is a double, and so is minus zero. -/
def ofWhole (isNegative : Bool) (ds : List Char) : Except Fault Number :=
  let s := Significand.takeWhole ⟨0, 0⟩ ds
  if s.power = 0 then
    if isNegative then
      if 0 < s.value ∧ 2 * s.value ≤ wordBound then .ok (negative s.value)
      else .ok (real (-Float.ofNat s.value))
    else .ok (natural s.value)
  else ofSignificand isNegative s

end Number

end SpatialSql.Json
