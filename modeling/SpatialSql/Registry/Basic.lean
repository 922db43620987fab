import SpatialSql.Action
import SpatialSql.Definition
import SpatialSql.Name.Table

/-!
# Registries

A registry finds definitions by name, up to ASCII case. The name a definition is
found under need not be its SQL name. A name is given once and for all:
registering another definition under it is refused.
-/

namespace SpatialSql

/-- Definitions under their names. -/
structure Registry where
  functions : Name.Table Definition
  deriving DecidableEq

namespace Registry

/-- The registry of no functions. -/
def empty : Registry :=
  ⟨.empty⟩

/-- The definition found under a name, however its letters are cased. -/
def get? (registry : Registry) (name : String) : Option Definition :=
  registry.functions.find? name

/-- A definition is found under this name. -/
def contains (registry : Registry) (name : String) : Bool :=
  registry.functions.contains name

/-- The number of names. -/
def size (registry : Registry) : Nat :=
  registry.functions.size

/-- No name is registered. -/
def isEmpty (registry : Registry) : Bool :=
  registry.functions.isEmpty

/-- The names, folded and in order, with their definitions. -/
def entries (registry : Registry) : List (String × Definition) :=
  registry.functions.entries

/-- Puts a definition under a name that is still free. -/
def register (name : String) (definition : Definition) : Action Registry Unit := do
  let registry ← Action.state
  if registry.contains name then Action.fail (.duplicateFunction name)
  else
    Action.replace ⟨registry.functions.insert name definition⟩
    Action.emit (.registered name definition.name)

end Registry

end SpatialSql
