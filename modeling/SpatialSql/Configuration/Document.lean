import SpatialSql.Configuration.Basic
import SpatialSql.Json.Reader

/-!
# Configuration documents

A configuration is written in JSON. It has two fields, `empty_allow_list` and
`functions`, and a function has five, of which `name` and `min_args` are
required. Both are written as objects with their members in any order, or as
arrays of their fields in the order of declaration. The whole document is read
before any of it is put to use.
-/

namespace SpatialSql.Configuration

open Json Reader

/-- The policies under their written names. -/
def policies : List (String × AllowList.Policy) :=
  [("allow_all", .allowAll), ("deny_all", .denyAll)]

/-- The policy of a written name. -/
def policyNamed (name : String) : Reader AllowList.Policy :=
  match policies.lookup name with
  | some policy => pure policy
  | none => fault (.unknownVariant name (policies.map Prod.fst))

/-- The brace after a policy that is written as the only member of an object. -/
def endPolicy : Reader Unit
  | [] => .error .endInObject
  | .closeObject :: rest => .ok ((), rest)
  | _ => .error .expectedValue

/-- A policy written as an object, after the opening brace: the name for a key
and nothing for a value. The name is read as the key that it is, so what is no key
is refused as in any other object, and it is only where the object has no member
that a value is missing. -/
def policyMember : Reader AllowList.Policy := do
  match ← nextKey true with
  | none => fault .expectedValue
  | some name =>
    let policy ← policyNamed name
    colon
    unit
    endPolicy
    pure policy

/-- A policy: its name, or an object whose only key is the name. -/
def readPolicy : Reader AllowList.Policy
  | [] => .error .endInValue
  | .string name :: rest => policyNamed name rest
  | .brokenString f :: _ => .error f
  | .openObject :: rest => policyMember rest
  | _ => .error .expectedValue

/-- The members of a function met so far. -/
structure PartialEntry where
  name : Option String
  sqlName : Option (Option String)
  min : Option Nat
  max : Option (Option Nat)
  platforms : Option (List String)
  deriving DecidableEq

namespace PartialEntry

/-- No member met yet. -/
def start : PartialEntry :=
  ⟨none, none, none, none, none⟩

/-- The members of a function. -/
def fields : Fields PartialEntry where
  names := ["name", "sql_name", "min_args", "max_args", "platforms"]
  isMet
    | "name", entry => entry.name.isSome
    | "sql_name", entry => entry.sqlName.isSome
    | "min_args", entry => entry.min.isSome
    | "max_args", entry => entry.max.isSome
    | _, entry => entry.platforms.isSome
  value
    | "name", entry => return { entry with name := some (← string) }
    | "sql_name", entry => return { entry with sqlName := some (← optional string) }
    | "min_args", entry => return { entry with min := some (← count) }
    | "max_args", entry => return { entry with max := some (← optional count) }
    | _, entry => return { entry with platforms := some (← array string) }

/-- The function, if the members that it has to have are there. -/
def finish (entry : PartialEntry) : Except Fault Entry :=
  match entry.name, entry.min with
  | none, _ => .error (.missingField "name")
  | some _, none => .error (.missingField "min_args")
  | some name, some min =>
    .ok ⟨name, entry.sqlName.getD none, min, entry.max.getD none,
      entry.platforms.getD []⟩

end PartialEntry

/-- What a document calls a function when it is not one. -/
def entryKind : String :=
  "struct FunctionConfig"

/-- A field that an array has to have at this index. -/
def required {α : Type} (index : Nat) (field : Option α) : Reader α :=
  match field with
  | some value => pure value
  | none => fault (.tooShort index (entryKind ++ " with 5 elements"))

/-- The fields of a function from an array; those that need not be there may be
left off at the end. -/
def entryOfArray : Reader Entry := do
  let name ← required 0 (← nextElement true string)
  let sqlName ← nextElement false (optional string)
  let min ← required 2 (← nextElement false count)
  let max ← nextElement false (optional count)
  let platforms ← nextElement false (array string)
  pure ⟨name, sqlName.getD none, min, max.getD none, platforms.getD []⟩

/-- A function. -/
def readEntry : Reader Entry :=
  record entryKind entryOfArray PartialEntry.fields .start PartialEntry.finish

/-- The members of a configuration met so far. -/
structure Partial where
  policy : Option AllowList.Policy
  functions : Option (List Entry)
  deriving DecidableEq

namespace Partial

/-- No member met yet. -/
def start : Partial :=
  ⟨none, none⟩

/-- The members of a configuration. -/
def fields : Fields Partial where
  names := ["empty_allow_list", "functions"]
  isMet
    | "empty_allow_list", configuration => configuration.policy.isSome
    | _, configuration => configuration.functions.isSome
  value
    | "empty_allow_list", configuration =>
      return { configuration with policy := some (← readPolicy) }
    | _, configuration =>
      return { configuration with functions := some (← array readEntry) }

/-- The configuration; without members it allows all platforms and has no
functions. -/
def finish (configuration : Partial) : Configuration :=
  ⟨configuration.policy.getD .allowAll, configuration.functions.getD []⟩

end Partial

/-- The fields of a configuration from an array; any of them may be left off at
the end. -/
def ofArray : Reader Configuration := do
  let policy ← nextElement true readPolicy
  let functions ← nextElement false (array readEntry)
  pure (Partial.finish ⟨policy, functions⟩)

/-- A configuration. -/
def read : Reader Configuration :=
  record "struct RegistryConfig" ofArray Partial.fields .start fun configuration =>
    .ok configuration.finish

/-- The configuration that a document says. -/
def ofJson (text : String) : Except Fault Configuration :=
  document read text

end SpatialSql.Configuration
