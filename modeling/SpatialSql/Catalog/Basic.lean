import SpatialSql.Definition

/-!
# Catalogs

A catalog lists functions by SQL name, argument counts and platforms. It is
data: whether an entry makes a definition is only found out when it is built.
-/

namespace SpatialSql.Catalog

/-- A line of a catalog; a missing greatest count means that there is none. -/
structure Entry where
  name : String
  min : Nat
  max : Option Nat
  platforms : List String
  deriving DecidableEq

/-- The definition that an entry describes. -/
def Entry.definition (entry : Entry) : Except Error Definition :=
  Definition.ofCounts entry.name entry.min entry.max (.ofList entry.platforms)

end SpatialSql.Catalog
