/-!
# How many arguments a function takes

An arity is a least number of arguments, at least one, and a greatest number,
which may be missing. Its text is `2` when both numbers agree, `2..=6` when they
differ and `1..` when there is no greatest number.
-/

namespace SpatialSql

/-- The numbers of arguments that a function accepts. -/
structure Arity where
  min : Nat
  /-- The greatest number; `none` if any number above the least will do. -/
  max : Option Nat
  min_pos : 0 < min
  min_le_max : ∀ m, max = some m → min ≤ m
  deriving DecidableEq

namespace Arity

/-- Why two numbers do not make an arity. -/
inductive Invalid
  /-- The least number is zero. -/
  | noArgument
  /-- The greatest number lies below the least. -/
  | maxBelowMin (max min : Nat)
  deriving DecidableEq

def Invalid.message : Invalid → String
  | noArgument => "functions take at least one argument"
  | maxBelowMin max min =>
    "maximum argument count " ++ toString max ++ " is below minimum " ++ toString min

/-- The arity between two numbers. A least number of zero is refused before the
two are compared. -/
def between (min : Nat) (max : Option Nat) : Except Invalid Arity :=
  if positive : 0 < min then
    match max with
    | none => .ok ⟨min, none, positive, by simp⟩
    | some m =>
      if ordered : min ≤ m then
        .ok ⟨min, some m, positive, by simpa using ordered⟩
      else .error (.maxBelowMin m min)
  else .error .noArgument

/-- The arity of exactly `n` arguments. -/
def exactly (n : Nat) : Except Invalid Arity :=
  between n (some n)

/-- A call with `count` arguments so far cannot end yet. -/
def requiresMore (arity : Arity) (count : Nat) : Bool :=
  count < arity.min

/-- A call with `count` arguments so far may go on. -/
def allowsMore (arity : Arity) (count : Nat) : Bool :=
  match arity.max with
  | none => true
  | some m => count < m

/-- A call may have exactly `count` arguments. -/
def contains (arity : Arity) (count : Nat) : Bool :=
  arity.min ≤ count &&
    match arity.max with
    | none => true
    | some m => count ≤ m

/-- The written form of an arity. -/
def text (arity : Arity) : String :=
  match arity.max with
  | none => toString arity.min ++ ".."
  | some m =>
    if m = arity.min then toString m else toString arity.min ++ "..=" ++ toString m

end Arity

end SpatialSql
