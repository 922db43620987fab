import SpatialSql.Configuration.Document
import SpatialSql.Configuration.Stream
import SpatialSql.Registry.Basic

/-!
# Loading configurations into registries

The functions of a configuration are added to a registry all together or not at
all. They are first gathered in a table of their own, in the order of the
document, where each has to make a definition and to have a name that is free in
the registry and in the table; only a table of them all is added.
-/

namespace SpatialSql.Registry

/-- Gathers the functions of a configuration, after those in `staged`, for a
registry. -/
def stage (registry : Registry) (policy : AllowList.Policy) :
    (staged : Name.Table Definition) → List Configuration.Entry →
      Except Error (Name.Table Definition)
  | staged, [] => .ok staged
  | staged, entry :: entries => do
    let definition ← entry.definition policy
    if registry.contains entry.name || staged.contains entry.name then
      .error (.duplicateFunction entry.name)
    else stage registry policy (staged.insert entry.name definition) entries

/-- Adds the functions of a configuration. -/
def load (configuration : Configuration) : Action Registry Unit := do
  let registry ← Action.state
  let staged ← Action.ofExcept
    (stage registry configuration.policy .empty configuration.functions)
  Action.replace ⟨registry.functions.extend staged⟩
  Action.emit (.loadedConfiguration staged.size)

/-- Adds the functions of a configuration document. -/
def loadJson (text : String) : Action Registry Unit := do
  load (← Action.ofExcept ((Configuration.ofJson text).mapError .configuration))

/-- The registry of a configuration document. -/
def ofJson (text : String) : Outcome Registry Unit :=
  loadJson text empty

/-- The registry of a configuration document that is read from a stream. -/
def ofStream (attempts : List Stream.Attempt) : Outcome Registry Unit :=
  (do
    loadJson (← Action.ofExcept (Stream.text attempts)) : Action Registry Unit) empty

end SpatialSql.Registry
