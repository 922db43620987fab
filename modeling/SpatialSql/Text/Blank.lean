/-!
# Blank text

A character is blank if it has the Unicode property White_Space. The property
has twenty-five members, so it is written out as a table; it is wider than the
white space of `Char.isWhitespace`, and wider than the white space that a JSON
document may hold between its tokens.
-/

namespace SpatialSql.Text

/-- The code points with the property White_Space, as closed ranges. -/
def blankRanges : List (Nat × Nat) :=
  [(0x0009, 0x000D), (0x0020, 0x0020), (0x0085, 0x0085), (0x00A0, 0x00A0),
    (0x1680, 0x1680), (0x2000, 0x200A), (0x2028, 0x2029), (0x202F, 0x202F),
    (0x205F, 0x205F), (0x3000, 0x3000)]

/-- The character has the property White_Space. -/
def isBlankChar (c : Char) : Bool :=
  blankRanges.any fun range => range.1 ≤ c.toNat && c.toNat ≤ range.2

/-- Every character of the text is blank; the empty text is. -/
def isBlank (s : String) : Bool :=
  s.toList.all isBlankChar

end SpatialSql.Text
