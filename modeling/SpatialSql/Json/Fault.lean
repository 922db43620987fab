/-!
# What can be wrong with a JSON document

A document is read from left to right and the first fault met is the one
reported. There are faults of form, which the JSON grammar does not allow, and
faults of meaning, where a well-formed value is not the one that is wanted. Only
the cause is kept of a fault, not the line and column at which it was met.
-/

namespace SpatialSql.Json

/-- The cause for which a document is refused. -/
inductive Fault
  /-- The document ends where a value is wanted. -/
  | endInValue
  | endInList
  | endInObject
  | endInString
  /-- No value starts here. -/
  | expectedValue
  /-- A word that starts like `null`, `true` or `false` and goes on
  differently. -/
  | expectedWord
  | expectedColon
  | expectedListEnd
  | expectedObjectEnd
  | keyNotString
  | trailingComma
  /-- Something is left after the value. -/
  | trailingCharacters
  | invalidNumber
  | numberOutOfRange
  /-- A character below U+0020 stands unescaped in a string. -/
  | controlCharacter
  | invalidEscape
  /-- A high surrogate is not followed by a second escape. -/
  | unpairedHighSurrogate
  /-- A surrogate that is not the first of a pair stands first, or one that is
  not the second stands second. -/
  | loneSurrogate
  /-- A value of another type than the wanted one; both are described in
  words. -/
  | wrongType (got wanted : String)
  /-- A value of the right type outside the wanted range. -/
  | wrongValue (got wanted : String)
  /-- A record written as an array ends before the field of this index. -/
  | tooShort (length : Nat) (wanted : String)
  | unknownField (name : String) (known : List String)
  | unknownVariant (name : String) (known : List String)
  | duplicateField (name : String)
  | missingField (name : String)
  deriving DecidableEq

namespace Fault

/-- A name between the marks that messages put around names. -/
def mark (name : String) : String :=
  "`" ++ name ++ "`"

/-- The names to choose from: two are joined by "or", more are listed. -/
def alternatives : List String → String
  | [a, b] => mark a ++ " or " ++ mark b
  | names => "one of " ++ ", ".intercalate (names.map mark)

def message : Fault → String
  | endInValue => "EOF while parsing a value"
  | endInList => "EOF while parsing a list"
  | endInObject => "EOF while parsing an object"
  | endInString => "EOF while parsing a string"
  | expectedValue => "expected value"
  | expectedWord => "expected ident"
  | expectedColon => "expected `:`"
  | expectedListEnd => "expected `,` or `]`"
  | expectedObjectEnd => "expected `,` or `\x7d`"
  | keyNotString => "key must be a string"
  | trailingComma => "trailing comma"
  | trailingCharacters => "trailing characters"
  | invalidNumber => "invalid number"
  | numberOutOfRange => "number out of range"
  | controlCharacter =>
    "control character (\\u0000-\\u001F) found while parsing a string"
  | invalidEscape => "invalid escape"
  | unpairedHighSurrogate => "unexpected end of hex escape"
  | loneSurrogate => "lone leading surrogate in hex escape"
  | wrongType got wanted => "invalid type: " ++ got ++ ", expected " ++ wanted
  | wrongValue got wanted => "invalid value: " ++ got ++ ", expected " ++ wanted
  | tooShort length wanted =>
    "invalid length " ++ toString length ++ ", expected " ++ wanted
  | unknownField name known =>
    "unknown field " ++ mark name ++ ", expected " ++ alternatives known
  | unknownVariant name known =>
    "unknown variant " ++ mark name ++ ", expected " ++ alternatives known
  | duplicateField name => "duplicate field " ++ mark name
  | missingField name => "missing field " ++ mark name

end Fault

end SpatialSql.Json
