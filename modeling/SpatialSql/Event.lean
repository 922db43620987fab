/-!
# Events

What an operation notes in the log while it works. Events tell what happened and
never change what happens.
-/

namespace SpatialSql

/-- An entry of the log. -/
inductive Event
  /-- A call was read to its closing parenthesis; inner calls are noted before
  outer ones. -/
  | parsedCall (function : String) (arguments : Nat)
  /-- A call was not rendered because its function may not be used on the
  platform. -/
  | platformRejected (function platform : String)
  /-- A definition went into a registry under a name, which is given as the
  caller wrote it. -/
  | registered (name sqlName : String)
  /-- A registry was built from a catalog of this many entries. -/
  | builtFromCatalog (functions : Nat)
  /-- A configuration of this many functions was added to a registry. -/
  | loadedConfiguration (functions : Nat)
  deriving DecidableEq

namespace Event

/-- How much attention an event deserves. -/
inductive Level
  | trace
  | debug
  deriving DecidableEq

def level : Event → Level
  | registered .. => .trace
  | _ => .debug

def message : Event → String
  | parsedCall .. => "parsed function call"
  | platformRejected .. => "platform rejected by allow-list"
  | registered .. => "registered function"
  | builtFromCatalog _ => "built registry from catalog"
  | loadedConfiguration _ => "loaded registry configuration"

end Event

end SpatialSql
