import RouteContract.Decimal.Notation
import RouteContract.Json.Basic
import RouteContract.Yaml.Scalar

/-!
YAML text of a JSON value in block style. Lines are never folded. A text is written plain where
that reads back as the same text, else in single quotes, else in double quotes with escapes; a
text with line feeds is a literal block. Sequences under a key stand at the key's own
indentation, and a key that is long or has line breaks is written after a question mark.
-/

namespace RouteContract.Yaml

/-- Numbers are written out below 10 ^ 16 and from 10 ^ (-5) on, else with an exponent. -/
def numberFormat : Decimal.NumberFormat := ⟨16, 4, "e"⟩

/-- Text under construction, with what the layout rules ask about its end. -/
structure Page where
  text : String := ""
  column : Nat := 0
  /-- The last thing written was blank or a line start. -/
  blank : Bool := true
  /-- Only indentation and entry marks stand on the current line. -/
  fresh : Bool := true

namespace Page

def put (p : Page) (c : Char) : Page :=
  { p with text := p.text.push c, column := p.column + 1 }

def breakLine (p : Page) (c : Char) : Page :=
  { p with text := p.text.push c, column := 0 }

def putText (p : Page) (s : String) : Page :=
  s.toList.foldl put p

/-- Moves to the given column of a line that holds only indentation and entry marks. -/
def indentTo (p : Page) (indent : Nat) : Page :=
  let p := if !p.fresh || indent < p.column || (p.column == indent && !p.blank) then
    p.breakLine '\n' else p
  { (List.replicate (indent - p.column) ' ').foldl put p with blank := true, fresh := true }

/-- Writes a mark, apart from what stands before it if `apart`; an entry mark keeps the line
fresh. -/
def mark (p : Page) (s : String) (apart entry : Bool) : Page :=
  let p := if apart && !p.blank then p.put ' ' else p
  { p.putText s with blank := false, fresh := p.fresh && entry }

end Page

def isBreak (c : Char) : Bool :=
  c == '\n' || c == '\r' || c.toNat == 0x85 || c.toNat == 0x2028 || c.toNat == 0x2029

def isBreakOrBlank (c : Char) : Bool :=
  c == ' ' || c == '\t' || c.toNat == 0 || isBreak c

/-- Characters that may stand unescaped. -/
def isPrintable (c : Char) : Bool :=
  let n := c.toNat
  n == 0x0a || (0x20 ≤ n && n ≤ 0x7e) || (0xa0 ≤ n && n != 0xfeff && n != 0xfffe && n != 0xffff)

/-- What a text shows to the choice of its style. -/
structure Shape where
  indicators : Bool := false
  breaks : Bool := false
  special : Bool := false
  edgeSpace : Bool := false
  trailingSpace : Bool := false
  spaceBreak : Bool := false
  breakSpace : Bool := false

/-- Marks that a plain scalar cannot start with. -/
def isLeadingIndicator (c : Char) : Bool :=
  "#,[]&*!|>'\"%@".toList.contains c || c.toNat == 0x7b || c.toNat == 0x7d || c.toNat == 0x60

/-- Whether a character would be taken for a mark, given its neighbours; no neighbour counts as
a blank one. -/
def isIndicatorAt (previous : Option Char) (c : Char) (next : Option Char) : Bool :=
  let blankBefore := previous.all isBreakOrBlank
  let blankAfter := next.all isBreakOrBlank
  (c == ':' && blankAfter) || (c == '#' && blankBefore && previous.isSome) ||
    (previous.isNone && (isLeadingIndicator c || ((c == '?' || c == '-') && blankAfter)))

/-- The shape of the characters after `previous`. -/
def Shape.scan (shape : Shape) (previous : Option Char) : List Char → Shape
  | [] => shape
  | c :: rest =>
    let shape := { shape with
      indicators := shape.indicators || isIndicatorAt previous c rest.head?
      breaks := shape.breaks || isBreak c
      special := shape.special || !isPrintable c
      edgeSpace := shape.edgeSpace ||
        ((c == ' ' || isBreak c) && (previous.isNone || rest.isEmpty))
      trailingSpace := shape.trailingSpace || (c == ' ' && rest.isEmpty)
      spaceBreak := shape.spaceBreak || (isBreak c && previous == some ' ')
      breakSpace := shape.breakSpace || (c == ' ' && previous.any isBreak) }
    shape.scan (some c) rest

def Shape.ofText (cs : List Char) : Shape :=
  let document := cs.take 3 == ['-', '-', '-'] || cs.take 3 == ['.', '.', '.']
  Shape.scan { indicators := document } none cs

inductive Style where
  | plain
  | singleQuoted
  | doubleQuoted
  | literal
  deriving DecidableEq, Repr

/-- Whether the plain scalar would be read as something else than this text. -/
def readsAsOther (s : String) : Bool :=
  isZeroLed s.toList || Scalar.ofPlain s != .text s

/-- The style in which a text is written. -/
def Style.ofText (s : String) : Style :=
  let shape := Shape.ofText s.toList
  let blocked := shape.spaceBreak || shape.special
  if s.toList.contains '\n' then
    if blocked || shape.trailingSpace then .doubleQuoted else .literal
  else if !readsAsOther s &&
      !(shape.indicators || shape.breaks || shape.edgeSpace || blocked) then .plain
  else if blocked || shape.breakSpace then .doubleQuoted
  else .singleQuoted

/-- A text can be a key on the line of its value if it is short and has no line breaks. -/
def isSimpleKey (s : String) : Bool :=
  s.utf8ByteSize ≤ 128 && !s.toList.any isBreak

def upperHex (width n : Nat) : String :=
  let digits := (Nat.toDigits 16 n).map Char.toUpper
  Text.repeated (width - digits.length) '0' ++ String.ofList digits

/-- The escape of a character in double quotes. -/
def escape (c : Char) : String :=
  match c.toNat with
  | 0x00 => "\\0"
  | 0x07 => "\\a"
  | 0x08 => "\\b"
  | 0x09 => "\\t"
  | 0x0a => "\\n"
  | 0x0b => "\\v"
  | 0x0c => "\\f"
  | 0x0d => "\\r"
  | 0x1b => "\\e"
  | 0x22 => "\\\""
  | 0x5c => "\\\\"
  | 0x85 => "\\N"
  | 0xa0 => "\\_"
  | 0x2028 => "\\L"
  | 0x2029 => "\\P"
  | n =>
    if n ≤ 0xff then "\\x" ++ upperHex 2 n
    else if n ≤ 0xffff then "\\u" ++ upperHex 4 n
    else "\\U" ++ upperHex 8 n

def needsEscape (c : Char) : Bool :=
  !isPrintable c || isBreak c || c == '"' || c == '\\'

def Page.plain (p : Page) (s : String) : Page :=
  let p := if p.blank || s.isEmpty then p else p.put ' '
  { p.putText s with blank := false, fresh := false }

/-- The characters of a single-quoted scalar; `broken` says that a line break was just written. -/
def Page.singleQuotedBody (p : Page) (indent : Nat) (broken : Bool) : List Char → Page
  | [] => if broken then p.indentTo indent else p
  | c :: rest =>
    if isBreak c then ({ p.breakLine c with fresh := true }).singleQuotedBody indent true rest
    else if c == ' ' then (p.put c).singleQuotedBody indent broken rest
    else
      let p := if broken then p.indentTo indent else p
      let p := if c == '\'' then p.put c else p
      ({ p.put c with fresh := false }).singleQuotedBody indent false rest

def Page.singleQuoted (p : Page) (indent : Nat) (s : String) : Page :=
  let p := ((p.mark "'" true false).singleQuotedBody indent false s.toList).mark "'" false false
  { p with fresh := false }

def Page.doubleQuoted (p : Page) (s : String) : Page :=
  let body := s.toList.foldl (fun p c => if needsEscape c then p.putText (escape c) else p.put c)
    (p.mark "\"" true false)
  { body.mark "\"" false false with fresh := false }

/-- The header of a literal block: an indentation if the text starts blank, and what becomes of
the line feeds at its end. -/
def literalHeader (cs : List Char) : String :=
  let lead := match cs with
    | c :: _ => if c == ' ' || isBreak c then "2" else ""
    | [] => ""
  let chomp := match cs.reverse with
    | [] => "-"
    | [c] => if isBreak c then "+" else "-"
    | c :: d :: _ => if !isBreak c then "-" else if isBreak d then "+" else ""
  "|" ++ lead ++ chomp

def Page.literalBody (p : Page) (indent : Nat) (broken : Bool) : List Char → Page
  | [] => p
  | c :: rest =>
    if isBreak c then ({ p.breakLine c with fresh := true }).literalBody indent true rest
    else
      let p := if broken then p.indentTo indent else p
      ({ p.put c with fresh := false }).literalBody indent false rest

def Page.literal (p : Page) (indent : Nat) (s : String) : Page :=
  let p := (p.mark (literalHeader s.toList) true false).breakLine '\n'
  ({ p with fresh := true, blank := true }).literalBody indent true s.toList

/-- Writes a text in its style; `indent` is where its further lines start. -/
def Page.scalarText (p : Page) (indent : Nat) (s : String) : Page :=
  match Style.ofText s with
  | .plain => p.plain s
  | .singleQuoted => p.singleQuoted indent s
  | .doubleQuoted => p.doubleQuoted s
  | .literal => p.literal indent s

/-- The indentation of a collection inside one of the given indentation; `none` is the root. -/
def deeper (indent : Option Nat) (start : Nat) : Nat :=
  match indent with
  | none => start
  | some n => n + 2

def numberText : Number → String
  | .int i => toString i
  | .float x => numberFormat.render x

mutual

/-- Writes a value; `underKey` says that it is the value of a key. -/
def Page.value (p : Page) (indent : Option Nat) (underKey : Bool) : Json → Page
  | .null => p.plain "null"
  | .bool b => p.plain (if b then "true" else "false")
  | .num n => p.plain (numberText n)
  | .str s => p.scalarText (deeper indent 2) s
  | .arr [] => p.mark "[]" true false
  | .arr (j :: rest) =>
    let level := if underKey && !p.fresh then indent.getD 0 else deeper indent 0
    p.items level (j :: rest)
  | .obj [] => p.mark "\x7b\x7d" true false
  | .obj (m :: rest) => p.members (deeper indent 0) (m :: rest)

def Page.items (p : Page) (indent : Nat) : List Json → Page
  | [] => p
  | j :: rest =>
    (((p.indentTo indent).mark "-" true true).value (some indent) false j).items indent rest

def Page.members (p : Page) (indent : Nat) : List (String × Json) → Page
  | [] => p
  | (name, j) :: rest =>
    let p := p.indentTo indent
    let p :=
      if isSimpleKey name then (p.scalarText (indent + 2) name).mark ":" false false
      else
        let key := (p.mark "?" true true).scalarText (indent + 2) name
        (key.indentTo indent).mark ":" true true
    (p.value (some indent) true j).members indent rest

end

/-- YAML text of a value. -/
def render (j : Json) : String :=
  ((({} : Page).value none false j).indentTo 0).text

end RouteContract.Yaml
