import SpatialSql.Json.Numeral
import SpatialSql.Json.Quoted
import SpatialSql.Json.Token

/-!
# From text to JSON tokens

The text of a document is cut into tokens from left to right. Between tokens
there may be blanks, tabs and line ends, and nothing else. The first piece that
is no token is the last of the list.
-/

namespace SpatialSql.Json

/-- The four characters that may stand between tokens. -/
def isSpace (c : Char) : Bool :=
  c = ' ' || c = '\t' || c = '\n' || c = '\r'

/-- The token that a punctuation mark is. -/
def punctuation? : Char → Option Token
  | '\x7b' => some .openObject
  | '\x7d' => some .closeObject
  | '[' => some .openArray
  | ']' => some .closeArray
  | ',' => some .comma
  | ':' => some .colon
  | _ => none

/-- The word that starts with a letter. -/
def word? : Char → Option Word
  | 'n' => some .null
  | 't' => some .true
  | 'f' => some .false
  | _ => none

/-- Reads the given letters and answers the characters after them. -/
def scanLetters : (letters cs : List Char) → Except Fault (List Char)
  | [], cs => .ok cs
  | _ :: _, [] => .error .endInValue
  | l :: letters, c :: cs =>
    if c = l then scanLetters letters cs else .error .expectedWord

theorem length_scanLetters {letters cs rest : List Char}
    (h : scanLetters letters cs = .ok rest) :
    rest.length ≤ cs.length := by
  induction letters generalizing cs with
  | nil =>
    cases h
    exact Nat.le_refl _
  | cons l letters ih =>
    cases cs with
    | nil => cases h
    | cons c cs =>
      rw [scanLetters] at h
      split at h
      · have := ih h
        simp only [List.length_cons]
        omega
      · cases h

/-- Reads the token that starts with `c` and goes on in `cs`. The error is the
broken token that ends the list. -/
def scanToken (c : Char) (cs : List Char) : Except Token (Token × List Char) :=
  match punctuation? c with
  | some token => .ok (token, cs)
  | none =>
    match word? c with
    | some w =>
      match scanLetters (w.text.toList.drop 1) cs with
      | .ok rest => .ok (.word w, rest)
      | .error fault => .error (.brokenScalar fault)
    | none =>
      if c = '"' then
        match scanString cs with
        | .ok (xs, rest) => .ok (.string (String.ofList xs), rest)
        | .error fault => .error (.brokenString fault)
      else if c = '-' || c.isDigit then
        match scanNumber (c :: cs) with
        | .ok (n, rest) => .ok (.number n, rest)
        | .error fault => .error (.brokenScalar fault)
      else .error .unusable

theorem length_scanToken {c : Char} {cs rest : List Char} {token : Token}
    (h : scanToken c cs = .ok (token, rest)) :
    rest.length ≤ cs.length := by
  unfold scanToken at h
  split at h
  · cases h
    exact Nat.le_refl _
  · split at h
    · split at h
      · rename_i scanned
        cases h
        exact length_scanLetters scanned
      · cases h
    · split at h
      · split at h
        · rename_i scanned
          cases h
          exact Nat.le_of_lt (length_scanString scanned)
        · cases h
      · split at h
        · split at h
          · rename_i scanned
            cases h
            have := length_scanNumber scanned
            simp at this
            omega
          · cases h
        · cases h

/-- The tokens of a text. -/
def tokens : List Char → List Token
  | [] => []
  | c :: cs =>
    if isSpace c then tokens cs
    else
      match _h : scanToken c cs with
      | .ok (token, rest) => token :: tokens rest
      | .error token => [token]
termination_by cs => cs.length
decreasing_by
  · simp
  · have := length_scanToken _h
    simp only [List.length_cons]
    omega

end SpatialSql.Json
