import SpatialSql.Catalog.Mysql
import SpatialSql.Catalog.Postgresql
import SpatialSql.Registry.Basic

/-!
# Registries from catalogs

Every entry of a catalog is registered under its own SQL name, in the order of
the catalog. The first entry that makes no definition or whose name is taken
ends the work.
-/

namespace SpatialSql.Registry

/-- Registers the entries of a catalog, one after the other. -/
def registerAll : List Catalog.Entry → Action Registry Unit
  | [] => pure ()
  | entry :: entries => do
    let definition ← Action.ofExcept entry.definition
    register entry.name definition
    registerAll entries

/-- Builds the registry of a catalog. -/
def ofCatalog (catalog : List Catalog.Entry) : Outcome Registry Unit :=
  (do
    registerAll catalog
    Action.emit (.builtFromCatalog (← Action.state).size) : Action Registry Unit) empty

/-- The registry of the PostgreSQL catalog. -/
def postgresql : Outcome Registry Unit :=
  ofCatalog Catalog.postgresql

/-- The registry of the MySQL catalog. -/
def mysql : Outcome Registry Unit :=
  ofCatalog Catalog.mysql

end SpatialSql.Registry
