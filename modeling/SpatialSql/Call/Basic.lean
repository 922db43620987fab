import SpatialSql.Definition

/-!
# Calls

A call is a function with its arguments. What an argument is, the host decides:
any type will do.
-/

namespace SpatialSql

/-- A function applied to arguments. -/
structure Call (E : Type) where
  definition : Definition
  arguments : List E
  deriving DecidableEq

namespace Call

variable {E : Type}

/-- The SQL name of the function. -/
def name (call : Call E) : String :=
  call.definition.name

/-- The call of a function on given arguments, if it takes that many. -/
def ofArguments (definition : Definition) (arguments : List E) :
    Except Error (Call E) :=
  if definition.arity.contains arguments.length then .ok ⟨definition, arguments⟩
  else .error (.wrongArgumentCount definition.name definition.arity arguments.length)

end Call

end SpatialSql
