import SpatialSql.Token.Source

/-!
# Verbatim arguments

Hosts that do not look into arguments keep them as text. There are three ways to
tell where such an argument ends: it is nothing at all, a single token, or all
tokens up to the comma or parenthesis that ends it.
-/

namespace SpatialSql.Verbatim

variable {σ : Type} [TokenSource σ]

open TokenSource

/-- How much of the input a verbatim argument takes. -/
inductive Extent
  /-- No token; the argument is the text `<>`. -/
  | nothing
  /-- Up to a comma, or a closing parenthesis, that no parenthesis within the
  argument encloses. -/
  | balanced
  /-- One token that is neither a parenthesis nor a comma. -/
  | single
  deriving DecidableEq

/-- The number of open parentheses after a token. -/
def depthAfter (kind : Token.Kind) (depth : Nat) : Nat :=
  match kind with
  | .openParenthesis => depth + 1
  | .closeParenthesis => depth - 1
  | _ => depth

/-- An argument with `depth` open parentheses ends before a token of this
kind. -/
def endsBefore (kind : Token.Kind) (depth : Nat) : Bool :=
  depth = 0 && (kind = .comma || kind = .closeParenthesis)

/-- Joins the texts of tokens up to the end of the argument, from a source of no
more than `tokens` tokens. -/
def readBalanced : (tokens depth : Nat) → Action σ String
  | 0, _ => pure ""
  | tokens + 1, depth => do
    match peek (← Action.state) with
    | none => pure ""
    | some token =>
      if endsBefore token.kind depth then pure ""
      else
        skip
        let others ← readBalanced tokens (depthAfter token.kind depth)
        pure (token.text ++ others)

/-- Reads the text of a token that is neither a parenthesis nor a comma. -/
def readSingle : Action σ String := do
  match peek (← Action.state) with
  | none => Action.fail (.refused "unexpected end of input")
  | some token =>
    if token.kind = .identifier || token.kind = .other then
      skip
      pure token.text
    else Action.fail (.refused ("unexpected " ++ token.quoted))

/-- Reads an argument of this extent. -/
def read : Extent → Action σ String
  | .nothing => pure "<>"
  | .balanced => do readBalanced (remaining (← Action.state)).length 0
  | .single => readSingle

end SpatialSql.Verbatim
