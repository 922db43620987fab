import SpatialSql.Json.Number

/-!
# Tokens of a JSON document

A document as a list of punctuation marks, words, numbers and strings. Where the
text goes wrong the list ends with a broken token, which holds the fault that a
reader meets if it wants to use the token; a reader that has another reason to
refuse the token's first character never learns it.
-/

namespace SpatialSql.Json

/-- The three words of the format. -/
inductive Word
  | null
  | true
  | false
  deriving DecidableEq

/-- How a word is written. -/
def Word.text : Word → String
  | null => "null"
  | true => "true"
  | false => "false"

/-- A piece of a document. -/
inductive Token
  | openObject
  | closeObject
  | openArray
  | closeArray
  | comma
  | colon
  | word (w : Word)
  | number (n : Number)
  | string (s : String)
  /-- A quote starts here, and the string behind it has a fault. -/
  | brokenString (fault : Fault)
  /-- A number or word starts here and has a fault. -/
  | brokenScalar (fault : Fault)
  /-- No token starts with the character that stands here. -/
  | unusable
  deriving DecidableEq

end SpatialSql.Json
