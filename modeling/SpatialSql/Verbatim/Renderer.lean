import SpatialSql.Action

/-!
# Writing verbatim arguments

A renderer for arguments that are texts. It puts a mark before each of them, may
refuse one of them, and counts how often it was asked.
-/

namespace SpatialSql.Verbatim

/-- How verbatim arguments are written. -/
structure Renderer where
  /-- What is put before every argument. -/
  mark : String
  /-- The argument that is refused, if there is one. -/
  refusal : Option String
  deriving DecidableEq

/-- Writes an argument; the state is the number of arguments asked for. -/
def Renderer.render (renderer : Renderer) (argument : String) : Action Nat String := do
  Action.replace ((← Action.state) + 1)
  if renderer.refusal = some argument then
    Action.fail (.refused ("cannot render " ++ argument))
  else pure (renderer.mark ++ argument)

end SpatialSql.Verbatim
