import SpatialSql.AllowList
import SpatialSql.Text.Blank

/-!
# Function definitions

What is known of one spatial function: the name that SQL gives it, how many
arguments it takes and the platforms it may be used on.
-/

namespace SpatialSql

/-- A spatial function. Its SQL name is kept as it was written and is not
blank. -/
structure Definition where
  name : String
  arity : Arity
  platforms : AllowList
  name_not_blank : Text.isBlank name = false
  deriving DecidableEq

namespace Definition

/-- The definition with these parts, if the name is not blank. -/
def named (name : String) (arity : Arity) (platforms : AllowList) :
    Except Error Definition :=
  if h : Text.isBlank name = false then .ok ⟨name, arity, platforms, h⟩
  else .error .blankName

/-- The definition with these argument counts; unfit counts are reported before
a blank name. -/
def ofCounts (name : String) (min : Nat) (max : Option Nat)
    (platforms : AllowList) : Except Error Definition := do
  let arity ← (Arity.between min max).mapError .invalidArity
  named name arity platforms

end Definition

end SpatialSql
