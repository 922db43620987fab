import SpatialSql.Action
import SpatialSql.Call.Basic

/-!
# Writing calls as SQL

A call is written as its function's name with the arguments in parentheses,
separated by a comma and a blank. The platform is checked first: for a platform
that the function may not be used on, no argument is looked at. The host writes
the arguments, each by one run of an action on a state of its own, from left to
right.
-/

namespace SpatialSql

/-- How expressions of type `E` are written for one platform; `ρ` is the state
that writing them carries along. -/
structure Compiler (ρ E : Type) where
  platform : String
  expression : E → Action ρ String

namespace Call

variable {ρ E : Type}

/-- Runs the action on each argument in turn and collects the texts. -/
def renderEach (argument : E → Action ρ String) : List E → Action ρ (List String)
  | [] => pure []
  | first :: others => do
    let text ← argument first
    let texts ← renderEach argument others
    pure (text :: texts)

/-- Writes a call whose arguments are written by `arguments`, if the function
may be used on the platform. -/
def write (definition : Definition) (platform : String)
    (arguments : Action ρ (List String)) : Action ρ String :=
  match definition.platforms.check platform with
  | .ok () => do
    let texts ← arguments
    pure (definition.name ++ "(" ++ ", ".intercalate texts ++ ")")
  | .error rejection => do
    Action.emit (.platformRejected definition.name platform)
    Action.fail rejection

/-- Writes a call for a platform, with `argument` for each of its arguments. -/
def render (call : Call E) (platform : String) (argument : E → Action ρ String) :
    Action ρ String :=
  write call.definition platform (renderEach argument call.arguments)

/-- Writes a call for the platform of a compiler. -/
def compile (call : Call E) (compiler : Compiler ρ E) : Action ρ String :=
  call.render compiler.platform compiler.expression

end Call

end SpatialSql
