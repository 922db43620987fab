import SpatialSql.Action
import SpatialSql.Token.Basic

/-!
# Token sources

Anything that hands out tokens one after another can be read: a source shows the
tokens that are left, moves past the first of them and knows a byte offset at
which its input ends. Reading looks one token ahead.
-/

namespace SpatialSql

/-- A state from which tokens are read, in order and one at a time. -/
class TokenSource (σ : Type) where
  /-- The tokens that have not been read yet. -/
  remaining : σ → List Token
  /-- Moves past the first token that is left, if there is one. -/
  advance : σ → σ
  /-- The byte offset to report when a token is wanted and none is left. -/
  stop : σ → Nat
  remaining_advance : ∀ s, remaining (advance s) = (remaining s).tail

namespace TokenSource

variable {σ τ : Type} [TokenSource σ]

/-- The next token, which stays unread. -/
def peek (s : σ) : Option Token :=
  (remaining s).head?

/-- The next token is of this kind. -/
def atKind (kind : Token.Kind) (s : σ) : Bool :=
  (peek s).any (·.kind = kind)

/-- What stands next: a token or the end. -/
def found (s : σ) : Token.Found :=
  match peek s with
  | some token => .token token
  | none => .nothing (stop s)

/-- Reads a token of this kind; any other stays unread. -/
def expect (kind : Token.Kind) : Action σ Unit := fun s =>
  if atKind kind s then ⟨.ok (), advance s, []⟩
  else ⟨.error (.unexpectedToken kind (found s)), s, []⟩

/-- Moves past the next token, whatever it is. -/
def skip : Action σ Unit := fun s =>
  ⟨.ok (), advance s, []⟩

/-- A reader may carry a state of its own beside the source that it reads. -/
instance : TokenSource (σ × τ) where
  remaining s := remaining s.1
  advance s := (advance s.1, s.2)
  stop s := stop s.1
  remaining_advance s := remaining_advance s.1

/-- A source lent to a reader. What is read from the loan is read from the
source behind it. -/
structure Loan (σ : Type) where
  source : σ

/-- A loan is read by reading the source behind it, which so keeps its place
when the loan ends. -/
instance : TokenSource (Loan σ) where
  remaining loan := remaining loan.source
  advance loan := ⟨advance loan.source⟩
  stop loan := stop loan.source
  remaining_advance loan := remaining_advance loan.source

end TokenSource

end SpatialSql
