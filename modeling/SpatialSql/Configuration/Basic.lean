import SpatialSql.Definition

/-!
# Configurations

What a configuration document says: a list of functions, and one policy for
those of them that declare no platform.
-/

namespace SpatialSql

/-- A function of a configuration: the name it is to be found under, and what
makes its definition. -/
structure Configuration.Entry where
  name : String
  /-- The name in SQL, if it is not the name it is found under. -/
  sqlName : Option String
  min : Nat
  /-- The greatest number of arguments; `none` if there is no such bound. -/
  max : Option Nat
  platforms : List String
  deriving DecidableEq

/-- What a configuration document says. -/
structure Configuration where
  policy : AllowList.Policy
  functions : List Configuration.Entry
  deriving DecidableEq

/-- The definition that an entry describes, in a configuration of the given
policy. -/
def Configuration.Entry.definition (entry : Entry) (policy : AllowList.Policy) :
    Except Error Definition :=
  Definition.ofCounts (entry.sqlName.getD entry.name) entry.min entry.max
    ((AllowList.ofList entry.platforms).withPolicy policy)

end SpatialSql
