import SpatialSql.Text.Printable

/-!
# Quoted text

A text between double quotes in which every character can be told: quotes and
backslashes carry a backslash, a few control characters have letters, and what
cannot be printed is given by its code point.
-/

namespace SpatialSql.Text

/-- The character as it stands between the quotes. -/
def escapeChar : Char → String
  | '\x00' => "\\0"
  | '\t' => "\\t"
  | '\r' => "\\r"
  | '\n' => "\\n"
  | '"' => "\\\""
  | '\\' => "\\\\"
  | c =>
    if isPrintable c then String.singleton c
    else "\\u\x7b" ++ String.ofList (Nat.toDigits 16 c.toNat) ++ "\x7d"

/-- The text between double quotes. -/
def quote (s : String) : String :=
  "\"" ++ String.join (s.toList.map escapeChar) ++ "\""

end SpatialSql.Text
