import SpatialSql.Call.Basic

/-!
# Expressions

The arguments of a query's calls: paths, numbers, texts and parameters, which
are kept as they were written, and calls with arguments of their own.
-/

namespace SpatialSql.Query

/-- An argument of a call. -/
inductive Expr
  | path (text : String)
  | number (text : String)
  /-- A text with its quotes. -/
  | text (text : String)
  /-- A parameter without its colon. -/
  | parameter (name : String)
  | call (definition : Definition) (arguments : List Expr)

namespace Expr

/-- The expression that a call is. -/
def ofCall (call : Call Expr) : Expr :=
  .call call.definition call.arguments

/-- The expression that a token of no special kind is: a text if it starts with
a quote, a parameter if it starts with a colon and otherwise a number. -/
def ofOther (text : String) : Expr :=
  match text.toList with
  | '\x27' :: _ => .text text
  | ':' :: name => .parameter (String.ofList name)
  | _ => .number text

end Expr

end SpatialSql.Query
