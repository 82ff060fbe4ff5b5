import RouteContract.Yaml.Token.Cursor

/-!
The text of scalars: plain, quoted, and the two block styles. Each reader gives the text and the
cursor after it, and nothing if the text is malformed. Line breaks inside plain and quoted scalars
are folded: one break is a blank, and of several the first is dropped.
-/

namespace RouteContract.Yaml

/-- White space seen inside a scalar whose meaning depends on what follows it. -/
structure Gap where
  blanks : List Char := []
  firstBreak : List Char := []
  furtherBreaks : List Char := []
  broken : Bool := false

/-- What a gap between two parts of a scalar contributes to its text. -/
def Gap.folded (g : Gap) : List Char :=
  if !g.broken then g.blanks
  else if g.firstBreak == ['\n'] then
    if g.furtherBreaks.isEmpty then [' '] else g.furtherBreaks
  else g.firstBreak ++ g.furtherBreaks

/-- Collects blanks and line breaks. With `indent`, a tab before that column of a further line is
refused. -/
def Gap.collect (g : Gap) (indent : Option Int) : Nat → Cursor → Option (Gap × Cursor)
  | 0, c => some (g, c)
  | fuel + 1, c =>
    if c.blankAt 0 then
      if g.broken && c.isAt 0 '\t' && indent.any (fun i => (c.column : Int) < i) then none
      else if g.broken then g.collect indent fuel c.skip
      else Gap.collect { g with blanks := g.blanks ++ c.peek.toList } indent fuel c.skip
    else if c.breakAt 0 then
      if g.broken then
        Gap.collect { g with furtherBreaks := g.furtherBreaks ++ c.breakText } indent fuel
          c.skipLine
      else
        Gap.collect { g with blanks := [], firstBreak := c.breakText, broken := true } indent fuel
          c.skipLine
    else some (g, c)

def isFlowMark (c : Char) : Bool :=
  c == ',' || c == '[' || c == ']' || c.toNat == 0x7b || c.toNat == 0x7d

/-- Whether the character at the cursor ends a plain scalar. -/
def endsPlain (flow : Bool) (c : Cursor) : Bool :=
  (c.isAt 0 ':' && c.gapAt 1) || (flow && c.peek.any isFlowMark)

/-- The characters of a plain scalar up to a gap or a mark, reversed onto `acc`. -/
def plainRun (flow : Bool) (acc : List Char) : Nat → Cursor → Option (List Char × Cursor)
  | 0, c => some (acc, c)
  | fuel + 1, c =>
    if c.gapAt 0 then some (acc, c)
    else if flow && c.isAt 0 ':' && (c.peekAt 1).any (fun x => isFlowMark x || x == '?') then none
    else if endsPlain flow c then some (acc, c)
    else plainRun flow (c.peek.toList ++ acc) fuel c.skip

/-- The rest of a plain scalar after a gap; also tells whether the scalar was followed by a line
break. -/
def plainRest (flow : Bool) (indent : Int) (acc : List Char) (gap : Gap) :
    Nat → Cursor → Option (List Char × Bool × Cursor)
  | 0, _ => none
  | fuel + 1, c =>
    if c.atAnyDocumentMark || c.isAt 0 '#' then some (acc, gap.broken, c)
    else if c.gapAt 0 || endsPlain flow c then
      -- nothing to join: the scalar ended before the gap
      if flow && c.isAt 0 ':' && (c.peekAt 1).any (fun x => isFlowMark x || x == '?') then none
      else some (acc, gap.broken, c)
    else do
      let (acc, c) ← plainRun flow (gap.folded.reverse ++ acc) (c.rest.length + 1) c
      if !(c.blankAt 0 || c.breakAt 0) then some (acc, false, c)
      else
        let (gap, c) ← Gap.collect {} (some indent) (c.rest.length + 1) c
        if !flow && (c.column : Int) < indent then some (acc, gap.broken, c)
        else plainRest flow indent acc gap fuel c

/-- A plain scalar, and whether a line break followed it. -/
def plainScalar? (flow : Bool) (indent : Int) (c : Cursor) :
    Option (String × Bool × Cursor) := do
  let (acc, broken, c) ← plainRest flow indent [] {} (c.rest.length + 1) c
  some (String.ofList acc.reverse, broken, c)

/-- The character of a one-letter escape. -/
def simpleEscape? (c : Char) : Option Char :=
  match c with
  | '0' => some (Char.ofNat 0)
  | 'a' => some (Char.ofNat 0x07)
  | 'b' => some (Char.ofNat 0x08)
  | 't' | '\t' => some '\t'
  | 'n' => some '\n'
  | 'v' => some (Char.ofNat 0x0b)
  | 'f' => some (Char.ofNat 0x0c)
  | 'r' => some '\r'
  | 'e' => some (Char.ofNat 0x1b)
  | ' ' => some ' '
  | '"' => some '"'
  | '/' => some '/'
  | '\\' => some '\\'
  | 'N' => some (Char.ofNat 0x85)
  | '_' => some (Char.ofNat 0xa0)
  | 'L' => some (Char.ofNat 0x2028)
  | 'P' => some (Char.ofNat 0x2029)
  | _ => none

/-- The number of hexadecimal digits after an escape letter. -/
def hexEscapeWidth? (c : Char) : Option Nat :=
  match c with
  | 'x' => some 2
  | 'u' => some 4
  | 'U' => some 8
  | _ => none

/-- The character of the escape at the cursor. -/
def escape? (c : Cursor) : Option (Char × Cursor) := do
  let letter ← c.peekAt 1
  match simpleEscape? letter with
  | some x => some (x, c.skipMany 2)
  | none =>
    let width ← hexEscapeWidth? letter
    let digits := (c.rest.drop 2).take width
    if digits.length < width then none
    else
      let n ← Text.natOfDigits? 16 digits
      if (0xd800 ≤ n && n ≤ 0xdfff) || 0x10ffff < n then none
      else some (Char.ofNat n, c.skipMany (2 + width))

/-- The characters of a quoted scalar up to a gap, its end, or an escaped line break. The flag
tells that an escaped line break was passed. -/
def quotedRun (single : Bool) (acc : List Char) :
    Nat → Cursor → Option (List Char × Bool × Cursor)
  | 0, c => some (acc, false, c)
  | fuel + 1, c =>
    if c.gapAt 0 then some (acc, false, c)
    else if single && c.isAt 0 '\'' && c.isAt 1 '\'' then
      quotedRun single ('\'' :: acc) fuel (c.skipMany 2)
    else if c.isAt 0 (if single then '\'' else '"') then some (acc, false, c)
    else if !single && c.isAt 0 '\\' && c.breakAt 1 then some (acc, true, c.skip.skipLine)
    else if !single && c.isAt 0 '\\' then do
      let (x, c) ← escape? c
      quotedRun single (x :: acc) fuel c
    else quotedRun single (c.peek.toList ++ acc) fuel c.skip

def quotedRest (single : Bool) (acc : List Char) : Nat → Cursor → Option (List Char × Cursor)
  | 0, _ => none
  | fuel + 1, c =>
    if c.atAnyDocumentMark || c.atEnd then none
    else do
      let (acc, escaped, c) ← quotedRun single acc (c.rest.length + 1) c
      if c.isAt 0 (if single then '\'' else '"') then some (acc, c.skip)
      else
        let (gap, c) ← Gap.collect { broken := escaped } none (c.rest.length + 1) c
        quotedRest single (gap.folded.reverse ++ acc) fuel c

/-- A quoted scalar, from its opening quote on. -/
def quotedScalar? (single : Bool) (c : Cursor) : Option (String × Cursor) := do
  let (acc, c) ← quotedRest single [] (c.rest.length + 1) c.skip
  some (String.ofList acc.reverse, c)

/-- What becomes of the line breaks at the end of a block scalar. -/
inductive Chomping where
  | strip
  | clip
  | keep
  deriving DecidableEq

def chomping? (c : Cursor) : Option Chomping :=
  if c.isAt 0 '+' then some .keep else if c.isAt 0 '-' then some .strip else none

def digitAt? (c : Cursor) : Option Nat :=
  (c.peek.filter Char.isDigit).map fun d => d.toNat - '0'.toNat

/-- Chomping and indentation marks of a block scalar, in either order. -/
def blockHeader? (c : Cursor) : Option (Chomping × Nat × Cursor) :=
  match chomping? c with
  | some chomp =>
    match digitAt? c.skip with
    | some 0 => none
    | some d => some (chomp, d, c.skip.skip)
    | none => some (chomp, 0, c.skip)
  | none =>
    match digitAt? c with
    | some 0 => none
    | some d =>
      match chomping? c.skip with
      | some chomp => some (chomp, d, c.skip.skip)
      | none => some (.clip, d, c.skip)
    | none => some (.clip, 0, c)

/-- Skips indentation and collects empty lines; `indent` zero means that it is not known yet, and
`widest` is the widest indentation seen. -/
def blockBreaks (indent widest : Nat) (breaks : List Char) :
    Nat → Cursor → Option (Nat × List Char × Cursor)
  | 0, c => some (widest, breaks, c)
  | fuel + 1, c =>
    let room := if indent = 0 then c.rest.length else indent - c.column
    let spaces := min room ((c.rest.takeWhile (· == ' ')).length)
    let c := c.skipMany spaces
    let widest := max widest c.column
    if (indent = 0 || c.column < indent) && c.isAt 0 '\t' then none
    else if c.breakAt 0 then blockBreaks indent widest (breaks ++ c.breakText) fuel c.skipLine
    else some (widest, breaks, c)

/-- The lines of a block scalar; `lead` is the break after the line before, and `blankBefore`
tells that this line started with a blank. -/
def blockLines (isLiteral : Bool) (indent : Nat) (acc lead breaks : List Char)
    (blankBefore : Bool) :
    Nat → Cursor → Option (List Char × List Char × List Char × Cursor)
  | 0, c => some (acc, lead, breaks, c)
  | fuel + 1, c =>
    if c.column != indent || c.atEnd then some (acc, lead, breaks, c)
    else do
      let startsBlank := c.blankAt 0
      let joined :=
        if !isLiteral && lead == ['\n'] && !blankBefore && !startsBlank then
          if breaks.isEmpty then [' '] else []
        else lead
      let line := c.rest.takeWhile fun x => !Cursor.isBreakChar x
      let acc := line.reverse ++ (breaks.reverse ++ (joined.reverse ++ acc))
      let c := c.skipMany line.length
      let lead := c.breakText
      let c := c.skipLine
      let (_, breaks, c) ← blockBreaks indent 0 [] (c.rest.length + 1) c
      blockLines isLiteral indent acc lead breaks startsBlank fuel c

/-- A block scalar inside a collection of the given indentation, from its mark on. -/
def blockScalar? (isLiteral : Bool) (parent : Int) (c : Cursor) : Option (String × Cursor) := do
  let (chomp, increment, c) ← blockHeader? c.skip
  let c := c.skipWhile Cursor.isBlankChar
  let c := if c.isAt 0 '#' then c.skipWhile (fun x => !Cursor.isBreakChar x) else c
  if !c.breakOrEndAt 0 then none
  else
    let c := c.skipLine
    let indent := if increment = 0 then 0
      else if 0 ≤ parent then parent.toNat + increment else increment
    let (widest, breaks, c) ← blockBreaks indent 0 [] (c.rest.length + 1) c
    let indent := if indent = 0 then max (max widest (parent + 1).toNat) 1 else indent
    let (acc, lead, breaks, c) ←
      blockLines isLiteral indent [] [] breaks false (c.rest.length + 1) c
    let tail := match chomp with
      | .strip => []
      | .clip => lead
      | .keep => lead ++ breaks
    some (String.ofList (acc.reverse ++ tail), c)

end RouteContract.Yaml
