import SpatialSql.Call.Parse
import SpatialSql.Registry.Basic

/-!
# Reading calls of registered functions

The name at the head of the tokens decides which function is called. It is
looked at first and read with the rest of the call.
-/

namespace SpatialSql.Registry

variable {σ E : Type} [TokenSource σ]

open TokenSource

/-- The definition that the name at the head of the tokens stands for. Nothing
is read. -/
def definitionAhead (registry : Registry) : Action σ Definition := do
  let source ← Action.state
  match peek source with
  | some ⟨.identifier, text, _⟩ =>
    match registry.get? text with
    | some definition => pure definition
    | none => Action.fail (.unknownFunction text)
  | _ => Action.fail (.unexpectedToken .identifier (found source))

/-- Reads a call of a registered function, with `argument` for each of its
arguments. -/
def parseCall (registry : Registry) (argument : Action σ E) : Action σ (Call E) := do
  Call.parse (← registry.definitionAhead) argument

end SpatialSql.Registry
