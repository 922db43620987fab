/-!
# Tokens

What a host's lexer hands over: a kind, the text as it was written and the byte
offset at which it starts. Only the four kinds that make up a call have a
meaning here; all else is `other`.
-/

namespace SpatialSql

/-- The kinds of token that a call is made of, and `other` for the rest. -/
inductive Token.Kind
  | identifier
  | openParenthesis
  | closeParenthesis
  | comma
  | other
  deriving DecidableEq

/-- A piece of the input; `position` is the byte offset of its first
character. -/
structure Token where
  kind : Token.Kind
  text : String
  position : Nat
  deriving DecidableEq

namespace Token

/-- The kind as error messages name it. -/
def Kind.label : Kind → String
  | identifier => "identifier"
  | openParenthesis => "'('"
  | closeParenthesis => "')'"
  | comma => "','"
  | other => "token"

/-- The text between single quotes, as it was written. -/
def quoted (token : Token) : String :=
  "'" ++ token.text ++ "'"

/-- The byte offset just after the token. -/
def stop (token : Token) : Nat :=
  token.position + token.text.utf8ByteSize

/-- What a reader finds where it wants a token: a token, or the end of the input
at a byte offset. -/
inductive Found
  | token (token : Token)
  | nothing (stop : Nat)
  deriving DecidableEq

namespace Found

/-- The finding as error messages name it. -/
def label : Found → String
  | token t => t.quoted
  | nothing _ => "end of input"

def position : Found → Nat
  | token t => t.position
  | nothing stop => stop

end Found

end Token

end SpatialSql
