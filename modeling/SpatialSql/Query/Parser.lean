import SpatialSql.Query.Expr
import SpatialSql.Query.Lexer
import SpatialSql.Registry.Call
import SpatialSql.Token.Cursor

/-!
# Reading queries

A query is one call of a registered function. Its arguments are expressions, and
a registered name among them starts a call again, so a registered name never
stands alone. Names that are not registered are paths.
-/

namespace SpatialSql.Query

variable {σ : Type} [TokenSource σ]

open TokenSource

/-- Reads an expression from a source of no more than `tokens` tokens. A nested
call takes two of them before its first argument. -/
def expression (registry : Registry) : (tokens : Nat) → Action σ Expr
  | 0 => Action.fail .missingExpression
  | tokens + 1 => do
    match peek (← Action.state) with
    | none => Action.fail .missingExpression
    | some token =>
      match token.kind with
      | .identifier =>
        if registry.contains token.text then
          Expr.ofCall <$> registry.parseCall (expression registry tokens)
        else do
          skip
          pure (.path token.text)
      | .other => do
        skip
        pure (.ofOther token.text)
      | _ => Action.fail (.notAnExpression token.text)

/-- Reads a call of a registered function whose arguments are expressions. -/
def parseCall (registry : Registry) : Action σ (Call Expr) := do
  let source ← Action.state
  registry.parseCall (expression registry (remaining source).length)

/-- Reads a call with nothing behind it. -/
def parseAll (registry : Registry) : Action σ (Call Expr) := do
  let call ← parseCall registry
  match peek (← Action.state) with
  | none => pure call
  | some token => Action.fail (.trailingInput token)

/-- Reads a query from its text. -/
def parse (registry : Registry) (input : String) : Outcome Token.Cursor (Call Expr) :=
  parseAll registry (Token.Cursor.ofList (lex input))

end SpatialSql.Query
