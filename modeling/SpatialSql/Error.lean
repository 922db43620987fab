import SpatialSql.Arity
import SpatialSql.Json.Fault
import SpatialSql.Token.Basic

/-!
# Errors

One constructor for each cause; the wording is in `Error.message` alone. Causes
fall into eight kinds, which is as finely as most callers tell them apart.
-/

namespace SpatialSql

/-- Why an operation failed. -/
inductive Error
  /-- Another token than the wanted one, or none. -/
  | unexpectedToken (expected : Token.Kind) (found : Token.Found)
  /-- The function may not be used on this platform. -/
  | unsupportedPlatform (platform : String)
  /-- No function is registered under this name. -/
  | unknownFunction (name : String)
  /-- A function is registered under this name already, up to ASCII case. -/
  | duplicateFunction (name : String)
  /-- The argument counts of a definition do not make an arity. -/
  | invalidArity (cause : Arity.Invalid)
  /-- The name of a definition is blank. -/
  | blankName
  /-- The configuration cannot be read. -/
  | configuration (fault : Json.Fault)
  /-- The number of arguments of a call lies outside the arity of its
  function. -/
  | wrongArgumentCount (function : String) (arity : Arity) (count : Nat)
  /-- The input ends where an expression is wanted. -/
  | missingExpression
  /-- A token that starts no expression stands where one is wanted. -/
  | notAnExpression (text : String)
  /-- A token is left after a complete query. -/
  | trailingInput (token : Token)
  /-- A host's own reader or renderer refused, in its own words. -/
  | refused (message : String)
  /-- A stream could not be read. -/
  | unreadable (reason : String)
  deriving DecidableEq

namespace Error

/-- The kinds of error. -/
inductive Kind
  /-- A token is out of place. -/
  | tokenOrder
  | platform
  | unknownFunction
  | duplicateFunction
  | definition
  | configuration
  /-- The input is not acceptable for another reason than the order of its
  tokens. -/
  | input
  | stream
  deriving DecidableEq

def kind : Error → Kind
  | unexpectedToken .. => .tokenOrder
  | unsupportedPlatform _ => .platform
  | unknownFunction _ => .unknownFunction
  | duplicateFunction _ => .duplicateFunction
  | invalidArity _ | blankName => .definition
  | configuration _ => .configuration
  | wrongArgumentCount .. | missingExpression | notAnExpression _ | trailingInput _
  | refused _ => .input
  | unreadable _ => .stream

/-- The wording. A fault of a configuration is worded without its place in the
document: no line or column follows. -/
def message : Error → String
  | unexpectedToken expected found =>
    "syntax error at position " ++ toString found.position ++ ": expected " ++
      expected.label ++ ", got " ++ found.label
  | unsupportedPlatform platform =>
    "platform \"" ++ platform ++ "\" is not currently supported"
  | unknownFunction name => "unknown function: " ++ name
  | duplicateFunction name => "function already registered: " ++ name
  | invalidArity cause => "invalid function definition: " ++ cause.message
  | blankName => "invalid function definition: function name must not be empty"
  | configuration fault => "invalid registry configuration: " ++ fault.message
  | wrongArgumentCount function arity count =>
    function ++ " takes " ++ arity.text ++ " arguments, got " ++ toString count
  | missingExpression => "expected expression"
  | notAnExpression text => "unexpected '" ++ text ++ "' in expression"
  | trailingInput token =>
    "trailing input at " ++ toString token.position ++ ": " ++ token.quoted
  | refused message => message
  | unreadable reason => "io error: " ++ reason

end Error

end SpatialSql
