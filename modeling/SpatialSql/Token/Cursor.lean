import SpatialSql.Token.Source

/-!
# Cursors

Two sources over a list of tokens. A cursor remembers what it has passed, so the
end it reports is the end of the last token of the whole list however far it has
been read. A feed reports an end that its owner has chosen.
-/

namespace SpatialSql

/-- A place in a list of tokens: those already read, the latest first, and those
still to be read. -/
structure Token.Cursor where
  consumed : List Token
  remaining : List Token
  deriving DecidableEq

namespace Token.Cursor

/-- The cursor before the first token of a list. -/
def ofList (tokens : List Token) : Cursor :=
  ⟨[], tokens⟩

/-- The whole list, whatever has been read of it. -/
def toList (cursor : Cursor) : List Token :=
  cursor.consumed.reverse ++ cursor.remaining

/-- How many tokens of the whole list have been read. -/
def index (cursor : Cursor) : Nat :=
  cursor.consumed.length

/-- There are no more tokens than have been read. -/
def isAtEnd (cursor : Cursor) : Bool :=
  cursor.toList.length ≤ cursor.index

/-- Moves past one token; at the end nothing happens. -/
def advance (cursor : Cursor) : Cursor :=
  match cursor.remaining with
  | [] => cursor
  | token :: rest => ⟨token :: cursor.consumed, rest⟩

/-- The byte offset at which the last token of the whole list ends; zero for the
empty list. -/
def stop (cursor : Cursor) : Nat :=
  (cursor.toList.getLast?.map Token.stop).getD 0

theorem remaining_advance (cursor : Cursor) :
    cursor.advance.remaining = cursor.remaining.tail := by
  rcases cursor with ⟨consumed, _ | ⟨token, rest⟩⟩ <;> rfl

@[simp] theorem toList_ofList (tokens : List Token) :
    (ofList tokens).toList = tokens := rfl

/-- Reading keeps the list as a whole. -/
@[simp] theorem toList_advance (cursor : Cursor) :
    cursor.advance.toList = cursor.toList := by
  rcases cursor with ⟨consumed, _ | ⟨token, rest⟩⟩ <;> simp [advance, toList]

instance : TokenSource Cursor where
  remaining := remaining
  advance := advance
  stop := stop
  remaining_advance := remaining_advance

end Token.Cursor

/-- Tokens that a host hands out, with the end of input that the host
reports. -/
structure Token.Feed where
  remaining : List Token
  stop : Nat
  deriving DecidableEq

instance : TokenSource Token.Feed where
  remaining := Token.Feed.remaining
  advance feed := { feed with remaining := feed.remaining.tail }
  stop := Token.Feed.stop
  remaining_advance _ := rfl

end SpatialSql
