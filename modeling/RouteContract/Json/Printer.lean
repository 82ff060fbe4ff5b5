import RouteContract.Decimal.Notation
import RouteContract.Json.Basic

/-!
JSON text, compact and indented. Members are written in their order. In text only the quote, the
backslash and control characters are escaped.
-/

namespace RouteContract.Json

/-- Numbers are written out below 10 ^ 16 and from 10 ^ (-5) on, else with a signed exponent. -/
def numberFormat : Decimal.NumberFormat := ⟨16, 4, "e+"⟩

def renderNumber : Number → String
  | .int i => toString i
  | .float x => numberFormat.render x

def escapeChar (c : Char) : String :=
  if c == '"' then "\\\""
  else if c == '\\' then "\\\\"
  else if c == '\n' then "\\n"
  else if c == '\r' then "\\r"
  else if c == '\t' then "\\t"
  else if c.toNat == 0x08 then "\\b"
  else if c.toNat == 0x0c then "\\f"
  else if c.toNat < 0x10 then "\\u000" ++ Text.hex c.toNat
  else if c.toNat < 0x20 then "\\u00" ++ Text.hex c.toNat
  else String.singleton c

def renderText (s : String) : String :=
  "\"" ++ String.join (s.toList.map escapeChar) ++ "\""

mutual

/-- JSON text without blanks. -/
def compact : Json → String
  | .null => "null"
  | .bool b => if b then "true" else "false"
  | .num n => renderNumber n
  | .str s => renderText s
  | .arr items => "[" ++ ",".intercalate (compactItems items) ++ "]"
  | .obj members => "\x7b" ++ ",".intercalate (compactMembers members) ++ "\x7d"

def compactItems : List Json → List String
  | [] => []
  | j :: rest => compact j :: compactItems rest

def compactMembers : List (String × Json) → List String
  | [] => []
  | (name, j) :: rest => (renderText name ++ ":" ++ compact j) :: compactMembers rest

end

def newLine (depth : Nat) : String :=
  "\n" ++ Text.repeated (2 * depth) ' '

/-- Parts on lines of their own, one level deeper than the brackets around them. -/
def bracketed (depth : Nat) (left right : String) (parts : List String) : String :=
  if parts.isEmpty then left ++ right
  else
    left ++ newLine (depth + 1) ++ ("," ++ newLine (depth + 1)).intercalate parts ++
      newLine depth ++ right

mutual

/-- JSON text indented by two blanks a level. -/
def prettyAt (depth : Nat) : Json → String
  | .arr items => bracketed depth "[" "]" (prettyItems (depth + 1) items)
  | .obj members => bracketed depth "\x7b" "\x7d" (prettyMembers (depth + 1) members)
  | .null => "null"
  | .bool b => if b then "true" else "false"
  | .num n => renderNumber n
  | .str s => renderText s

def prettyItems (depth : Nat) : List Json → List String
  | [] => []
  | j :: rest => prettyAt depth j :: prettyItems depth rest

def prettyMembers (depth : Nat) : List (String × Json) → List String
  | [] => []
  | (name, j) :: rest =>
    (renderText name ++ ": " ++ prettyAt depth j) :: prettyMembers depth rest

end

def pretty (j : Json) : String :=
  prettyAt 0 j

end RouteContract.Json
