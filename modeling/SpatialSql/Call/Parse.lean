import SpatialSql.Call.Basic
import SpatialSql.Token.Source

/-!
# Reading calls

A call is written `name(argument, ...)`. The host reads the arguments, each by
one run of an action of its own; the rest is done here, one token ahead. While
arguments are still required a comma has to follow; once there are enough, a
closing parenthesis ends the call; and once there are as many as the function
takes, nothing else can.

The name is read and not compared: which definition a name stands for is the
caller's knowledge.
-/

namespace SpatialSql.Call

variable {σ E : Type} [TokenSource σ]

open TokenSource

/-- After `count` arguments another one has to follow: one is required, or one
is allowed and the call does not end here. -/
def wantsAnother (arity : Arity) (count : Nat) (s : σ) : Bool :=
  arity.requiresMore count || (arity.allowsMore count && !atKind .closeParenthesis s)

/-- Reads the arguments after the first `count`, each behind its comma. Every
argument costs a comma, so there are no more of them than `tokens`, the number
of tokens left; when that is zero the comma can only be missing. -/
def parseFurther (arity : Arity) (argument : Action σ E) :
    (tokens count : Nat) → Action σ (List E)
  | 0, count => do
    if wantsAnother arity count (← Action.state) then
      expect .comma
    pure []
  | tokens + 1, count => do
    if wantsAnother arity count (← Action.state) then
      expect .comma
      let next ← argument
      let others ← parseFurther arity argument tokens (count + 1)
      pure (next :: others)
    else pure []

/-- Reads the arguments of a call: one, and as many more as the arity and the
input have it. -/
def parseArguments (arity : Arity) (argument : Action σ E) : Action σ (List E) := do
  let first ← argument
  let others ← parseFurther arity argument (remaining (← Action.state)).length 1
  pure (first :: others)

/-- Reads a call of the function, with `argument` for each of its arguments. -/
def parse (definition : Definition) (argument : Action σ E) : Action σ (Call E) := do
  expect .identifier
  expect .openParenthesis
  let arguments ← parseArguments definition.arity argument
  expect .closeParenthesis
  Action.emit (.parsedCall definition.name arguments.length)
  pure ⟨definition, arguments⟩

end SpatialSql.Call
