import SpatialSql.Text.Blank
import SpatialSql.Token.Basic

/-!
# From query text to tokens

A query is cut into tokens from left to right, blanks between them being
dropped. Parentheses and commas are tokens by themselves. A text runs from a
quote to the next one, or to the end. Anything else runs on over letters,
digits, underscores and points, and is an identifier if it starts with a letter
or an underscore. Letters and digits are those of ASCII here. Every text can be
cut; positions are byte offsets.
-/

namespace SpatialSql.Query

/-- The kind of a token that is a single character. -/
def mark? : Char → Option Token.Kind
  | '(' => some .openParenthesis
  | ')' => some .closeParenthesis
  | ',' => some .comma
  | _ => none

/-- An identifier may start with this character. -/
def startsName (c : Char) : Bool :=
  c.isAlpha || c = '_'

/-- Identifiers, numbers and the like run on over this character. -/
def continuesName (c : Char) : Bool :=
  c.isAlphanum || c = '_' || c = '.'

/-- The mark that texts stand between. -/
def quoteMark : Char :=
  '\x27'

/-- Splits behind the first quote mark; without one, all belongs to the text. -/
def splitText : List Char → List Char × List Char
  | [] => ([], [])
  | c :: cs =>
    if c = quoteMark then ([c], cs) else (c :: (splitText cs).1, (splitText cs).2)

/-- A token that starts with a known character: its kind, its further characters
and what follows it. -/
structure Piece where
  kind : Token.Kind
  tail : List Char
  rest : List Char
  deriving DecidableEq

/-- The token that starts with `c`, which is not blank, and goes on in `cs`. -/
def piece (c : Char) (cs : List Char) : Piece :=
  match mark? c with
  | some kind => ⟨kind, [], cs⟩
  | none =>
    if c = quoteMark then ⟨.other, (splitText cs).1, (splitText cs).2⟩
    else
      ⟨if startsName c then .identifier else .other, cs.takeWhile continuesName,
        cs.dropWhile continuesName⟩

theorem splitText_append (cs : List Char) :
    (splitText cs).1 ++ (splitText cs).2 = cs := by
  induction cs with
  | nil => rfl
  | cons c cs ih =>
    rw [splitText]
    split
    · rfl
    · simp [ih]

/-- A token and what follows it are together what was there. -/
theorem piece_append (c : Char) (cs : List Char) :
    (piece c cs).tail ++ (piece c cs).rest = cs := by
  unfold piece
  split
  · rfl
  · split
    · exact splitText_append cs
    · exact List.takeWhile_append_dropWhile

theorem length_rest_le (c : Char) (cs : List Char) :
    (piece c cs).rest.length ≤ cs.length := by
  conv => rhs; rw [← piece_append c cs]
  simp

/-- The tokens of the characters that stand from the byte offset `position`
on. -/
def lexFrom (position : Nat) : List Char → List Token
  | [] => []
  | c :: cs =>
    if Text.isBlankChar c then lexFrom (position + c.utf8Size) cs
    else
      let token : Token :=
        ⟨(piece c cs).kind, String.ofList (c :: (piece c cs).tail), position⟩
      token :: lexFrom token.stop (piece c cs).rest
termination_by cs => cs.length
decreasing_by
  · simp
  · have := length_rest_le c cs
    simp only [List.length_cons]
    omega

/-- The tokens of a query. -/
def lex (input : String) : List Token :=
  lexFrom 0 input.toList

end SpatialSql.Query
