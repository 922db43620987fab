import SpatialSql.Json.Lexer
import SpatialSql.Text.Quoted

/-!
# Reading values from JSON tokens

A reader takes a value of a known type from the head of the tokens. Readers meet
faults in the order of the text: a value of another type than the wanted one is
refused where it starts, without a look at what follows it, but a broken token
is refused for its own fault first.

An array is read element by element, an object member by member. What may stand
between two of them is decided in one place each, `nextElement` and `nextKey`.
-/

namespace SpatialSql.Json

/-- Takes a value from the head of the tokens, or finds a fault. -/
abbrev Reader : Type → Type :=
  StateT (List Token) (Except Fault)

namespace Reader

variable {α π : Type}

/-- Finds a fault whatever comes. -/
def fault (f : Fault) : Reader α := fun _ =>
  .error f

/-- The fault of the value at the head of the tokens where another one is
wanted. -/
def mismatch (wanted : String) : List Token → Fault
  | [] => .endInValue
  | .string s :: _ => .wrongType ("string " ++ Text.quote s) wanted
  | .number n :: _ => .wrongType n.describe wanted
  | .word .null :: _ => .wrongType "null" wanted
  | .word w :: _ => .wrongType ("boolean " ++ Fault.mark w.text) wanted
  | .openArray :: _ => .wrongType "sequence" wanted
  | .openObject :: _ => .wrongType "map" wanted
  | .brokenString f :: _ | .brokenScalar f :: _ => f
  | .closeArray :: _ | .closeObject :: _ | .comma :: _ | .colon :: _
  | .unusable :: _ => .expectedValue

/-- Refuses the value at the head of the tokens. -/
def refuse (wanted : String) : Reader α := fun tokens =>
  .error (mismatch wanted tokens)

/-- A text. -/
def string : Reader String
  | .string s :: rest => .ok (s, rest)
  | tokens => refuse "a string" tokens

/-- A count, from 0 to 2^64 - 1. -/
def count : Reader Nat
  | .number (.natural n) :: rest => .ok (n, rest)
  | .number (.negative n) :: _ =>
    .error (.wrongValue (Number.negative n).describe "usize")
  | tokens => refuse "usize" tokens

/-- Nothing, written `null`. -/
def unit : Reader Unit
  | .word .null :: rest => .ok ((), rest)
  | tokens => refuse "unit" tokens

/-- A value that may be `null`. -/
def optional (value : Reader α) : Reader (Option α)
  | .word .null :: rest => .ok (none, rest)
  | tokens => (some <$> value) tokens

/-- The next element of an array, or `none` before the bracket that closes it. A
comma has to stand before every element but the first, and an element behind
every comma. -/
def nextElement (isFirst : Bool) (element : Reader α) : Reader (Option α)
  | [] => .error .endInList
  | .closeArray :: rest => .ok (none, .closeArray :: rest)
  | token :: rest =>
    if isFirst then (some <$> element) (token :: rest)
    else if token = .comma then
      match rest with
      | .closeArray :: _ => .error .trailingComma
      | _ => (some <$> element) rest
    else .error .expectedListEnd

/-- The bracket that closes an array from which no further element is wanted. -/
def endArray : Reader Unit
  | [] => .error .endInList
  | .closeArray :: rest => .ok ((), rest)
  | .comma :: .closeArray :: _ => .error .trailingComma
  | _ => .error .trailingCharacters

/-- The elements of an array that are left. Every element takes a token, so
there are no more of them than `tokens`, the number of tokens left; when that is
zero the array is not closed. -/
def elements (element : Reader α) :
    (tokens : Nat) → (isFirst : Bool) → Reader (List α)
  | 0, _ => fault .endInList
  | tokens + 1, isFirst => do
    match ← nextElement isFirst element with
    | none => pure []
    | some first => return first :: (← elements element tokens false)

/-- An array of any number of elements. -/
def array (element : Reader α) : Reader (List α)
  | .openArray :: rest => (do
      let all ← elements element rest.length true
      endArray
      pure all : Reader (List α)) rest
  | tokens => refuse "a sequence" tokens

/-- The key of the next member of an object, or `none` before the brace that
closes it. A comma has to stand before every member but the first, and a member
behind every comma. -/
def nextKey (isFirst : Bool) : Reader (Option String)
  | [] => .error .endInObject
  | .closeObject :: rest => .ok (none, .closeObject :: rest)
  | token :: rest =>
    if isFirst then
      match token with
      | .string key => .ok (some key, rest)
      | .brokenString f => .error f
      | _ => .error .keyNotString
    else if token = .comma then
      match rest with
      | [] => .error .endInValue
      | .string key :: rest => .ok (some key, rest)
      | .brokenString f :: _ => .error f
      | .closeObject :: _ => .error .trailingComma
      | _ => .error .keyNotString
    else .error .expectedObjectEnd

/-- The colon between a key and its value. -/
def colon : Reader Unit
  | [] => .error .endInObject
  | .colon :: rest => .ok ((), rest)
  | _ => .error .expectedColon

/-- The brace that closes an object whose members have been read. -/
def endObject : Reader Unit
  | .closeObject :: rest => .ok ((), rest)
  | [] => .error .endInObject
  | .comma :: _ => .error .trailingComma
  | _ => .error .trailingCharacters

/-- How the members of an object fill a record `π`: the keys there are, whether
one has been met, and how its value is read into the record. -/
structure Fields (π : Type) where
  names : List String
  isMet : String → π → Bool
  value : String → π → Reader π

/-- Reads the members that are left into the record, in the order of the text. A
key that is unknown or met again is refused before its value is looked at. Every
member takes a token; when none is left the object is not closed. -/
def members (fields : Fields π) : (tokens : Nat) → (isFirst : Bool) → π → Reader π
  | 0, _, _ => fault .endInObject
  | tokens + 1, isFirst, record => do
    match ← nextKey isFirst with
    | none => pure record
    | some key =>
      if !fields.names.contains key then fault (.unknownField key fields.names)
      else if fields.isMet key record then fault (.duplicateField key)
      else
        colon
        members fields tokens false (← fields.value key record)

/-- A record, written as an array of its fields or as an object. `ofArray` reads
the fields that an array has; `finish` decides on a record whose members have
been read, before the object is closed. -/
def record (wanted : String) (ofArray : Reader α) (fields : Fields π) (start : π)
    (finish : π → Except Fault α) : Reader α
  | .openArray :: rest => (do
      let value ← ofArray
      endArray
      pure value : Reader α) rest
  | .openObject :: rest => (do
      let value ← liftM (finish (← members fields rest.length true start))
      endObject
      pure value : Reader α) rest
  | tokens => refuse wanted tokens

/-- Reads the only value of a document. -/
def document (value : Reader α) (text : String) : Except Fault α :=
  match value (tokens text.toList) with
  | .ok (a, []) => .ok a
  | .ok (_, _ :: _) => .error .trailingCharacters
  | .error f => .error f

end Reader

end SpatialSql.Json
