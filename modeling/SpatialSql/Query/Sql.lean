import SpatialSql.Call.Render
import SpatialSql.Query.Expr

/-!
# Queries as SQL

Paths, numbers and texts are written as they are. For a parameter a question
mark is written and its name is collected, so the names come in the order of the
question marks. Nested calls are written for the same platform as the call they
stand in.
-/

namespace SpatialSql.Query

mutual

/-- Writes an expression. The state is the names of the parameters met so
far. -/
def Expr.toSql (platform : String) : Expr → Action (List String) String
  | .path written | .number written | .text written => pure written
  | .parameter name => do
    Action.replace ((← Action.state) ++ [name])
    pure "?"
  | .call definition arguments =>
    Call.write definition platform (Expr.eachToSql platform arguments)

/-- Writes expressions one after the other. -/
def Expr.eachToSql (platform : String) :
    List Expr → Action (List String) (List String)
  | [] => pure []
  | first :: others => do
    let text ← first.toSql platform
    let texts ← Expr.eachToSql platform others
    pure (text :: texts)

end

/-- How expressions are written for a platform. -/
def compiler (platform : String) : Compiler (List String) Expr :=
  ⟨platform, Expr.toSql platform⟩

/-- Writing expressions one after the other is running `toSql` on each. -/
theorem eachToSql_eq_renderEach (platform : String) (arguments : List Expr) :
    Expr.eachToSql platform arguments =
      Call.renderEach (Expr.toSql platform) arguments := by
  induction arguments with
  | nil => rw [Expr.eachToSql, Call.renderEach]
  | cons first others ih => rw [Expr.eachToSql, Call.renderEach, ih]

/-- A nested call is compiled as a call that stands alone is. -/
theorem toSql_ofCall (platform : String) (call : Call Expr) :
    (Expr.ofCall call).toSql platform = call.compile (compiler platform) := by
  rw [Expr.ofCall, Expr.toSql, eachToSql_eq_renderEach]
  rfl

end SpatialSql.Query
