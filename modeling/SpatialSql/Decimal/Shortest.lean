/-!
# Shortest decimals

Every positive finite double is a natural number times a power of two, and the
reals that round to it form an interval around it. Its shortest decimal is the
point of the coarsest decimal grid that has a point inside that interval; of two
such points it is the nearer one. No decimal with fewer digits reads back as the
same double.
-/

namespace SpatialSql.Decimal

/-- The number `significand · 2 ^ exponent`, with what is needed to know its
neighbours among the doubles. -/
structure Binary where
  significand : Nat
  exponent : Int
  /-- The next smaller double is only half as far away as the next larger
  one. -/
  closeBelow : Bool
  deriving DecidableEq

/-- The absolute value of a finite double, given by its bits: fifty-two for the
fraction and, above them, eleven for the scale. -/
def Binary.ofBits (bits : UInt64) : Binary :=
  let fraction := (bits &&& 0xFFFFFFFFFFFFF).toNat
  let scale := (bits >>> 52 &&& 0x7FF).toNat
  if scale = 0 then ⟨fraction, -1074, false⟩
  else
    ⟨0x10000000000000 + fraction, (scale : Int) - 1075, fraction = 0 && 1 < scale⟩

/-- The decimal `digits · 10 ^ exponent`. -/
structure Digits where
  digits : Nat
  exponent : Int
  deriving DecidableEq

namespace Binary

/-- The unit in which a quarter of a binary step is counted, when a point of the
decimal grid of step `10 ^ grid` is counted in `gridUnit`: the two units are to
one another as `2 ^ (exponent - 2)` to `10 ^ grid`. -/
def quarterUnit (x : Binary) (grid : Int) : Nat :=
  Nat.pow 2 (x.exponent - 2).toNat * Nat.pow 10 (-grid).toNat

/-- The unit in which a step of the decimal grid is counted; see
`quarterUnit`. -/
def gridUnit (x : Binary) (grid : Int) : Nat :=
  Nat.pow 10 grid.toNat * Nat.pow 2 (2 - x.exponent).toNat

/-- The decimal `k · 10 ^ grid` rounds to `x`. The ends of the interval do so if
the significand is even. -/
def roundsFrom (x : Binary) (grid : Int) (k : Nat) : Bool :=
  let point := k * x.gridUnit grid
  let low := (4 * x.significand - if x.closeBelow then 1 else 2) * x.quarterUnit grid
  let high := (4 * x.significand + 2) * x.quarterUnit grid
  if x.significand % 2 = 0 then low ≤ point && point ≤ high
  else low < point && point < high

/-- The point of the grid that rounds to `x`, if there is one: the nearer of the
two around `x`, and the even one when they are equally near. -/
def onGrid? (x : Binary) (grid : Int) : Option Nat :=
  let value := 4 * x.significand * x.quarterUnit grid
  let unit := x.gridUnit grid
  let below := value / unit
  let above := below + 1
  if x.roundsFrom grid below && 0 < below then
    if x.roundsFrom grid above then
      let toBelow := value - below * unit
      let toAbove := above * unit - value
      if toBelow < toAbove then some below
      else if toAbove < toBelow then some above
      else if below % 2 = 0 then some below else some above
    else some below
  else if x.roundsFrom grid above then some above
  else none

/-- The first point met on grids from `10 ^ grid` downwards. -/
def coarsest (x : Binary) : (steps : Nat) → (grid : Int) → Digits
  | 0, grid => ⟨x.significand, grid⟩
  | steps + 1, grid =>
    match x.onGrid? grid with
    | some k => ⟨k, grid⟩
    | none => x.coarsest steps (grid - 1)

/-- The shortest decimal of a positive double. The largest double lies below `10
^ 309`, and on the grid of step `10 ^ -324` every double has a point. -/
def shortest (x : Binary) : Digits :=
  x.coarsest 640 309

end Binary

end SpatialSql.Decimal
