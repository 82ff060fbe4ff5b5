import RouteContract.Text.Basic
import RouteContract.Text.Printable

/-!
String literals of the generated module: a text between double quotes in which the quote, the
backslash and every character that is not shown are escaped.
-/

namespace RouteContract.Text

/-- How one character stands inside a quoted literal. -/
def quotedChar (c : Char) : String :=
  if c == '"' then "\\\""
  else if c == '\\' then "\\\\"
  else if c == '\n' then "\\n"
  else if c == '\r' then "\\r"
  else if c == '\t' then "\\t"
  else if c.toNat == 0 then "\\0"
  else if isShown c then String.singleton c
  else "\\u\x7b" ++ hex c.toNat ++ "\x7d"

/-- The literal that denotes the text. -/
def quoted (s : String) : String :=
  "\"" ++ String.join (s.toList.map quotedChar) ++ "\""

end RouteContract.Text
