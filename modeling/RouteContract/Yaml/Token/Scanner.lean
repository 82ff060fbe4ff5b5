import RouteContract.Yaml.Token
import RouteContract.Yaml.Token.ScalarText

/-!
From YAML text to tokens. The scanner remembers where a key could have started: when a colon shows
that there was one, the key mark, and the start of the block mapping it opens, are put back at that
place.
-/

namespace RouteContract.Yaml

/-- A place where a key may have started. A required one must turn out to be a key. -/
structure PossibleKey where
  required : Bool
  /-- The number of tokens before the key. -/
  position : Nat
  index : Nat
  line : Nat
  column : Nat

structure Scanner where
  cursor : Cursor
  tokens : Array Token := #[]
  flowLevel : Nat := 0
  /-- The indentation of the innermost block collection; the root has -1. -/
  indent : Int := -1
  outer : List Int := []
  keyAllowed : Bool := true
  /-- The possible key of each flow level, innermost first. -/
  keys : List (Option PossibleKey) := [none]

namespace Scanner

def push (s : Scanner) (t : Token) : Scanner :=
  { s with tokens := s.tokens.push t }

def inFlow (s : Scanner) : Bool :=
  0 < s.flowLevel

/-- Puts a token before those from `position` on. -/
def insertAt (s : Scanner) (position : Nat) (t : Token) : Scanner :=
  { s with
    tokens := (s.tokens.extract 0 position).push t ++ s.tokens.extract position s.tokens.size }

def setKey (s : Scanner) (key : Option PossibleKey) : Scanner :=
  { s with keys := key :: s.keys.tail }

def key? (s : Scanner) : Option PossibleKey :=
  s.keys.head?.join

/-- Gives up the possible key of this level, which must not be a required one. -/
def dropKey (s : Scanner) : Option Scanner :=
  if s.key?.any (·.required) then none else some (s.setKey none)

/-- Notes that a key may start here. -/
def noteKey (s : Scanner) : Option Scanner :=
  if s.keyAllowed then do
    let required := !s.inFlow && s.indent == (s.cursor.column : Int)
    let s ← s.dropKey
    some (s.setKey (some
      ⟨required, s.tokens.size, s.cursor.index, s.cursor.line, s.cursor.column⟩))
  else some s

/-- Whether a possible key is given up because the text has left its line or gone on too long. -/
def isStale (c : Cursor) (key : PossibleKey) : Bool :=
  key.line < c.line || key.index + 1024 < c.index

/-- Gives up the keys that have become impossible. -/
def dropStaleKeys (s : Scanner) : Option Scanner :=
  if s.keys.any fun key => key.any fun k => isStale s.cursor k && k.required then none
  else some { s with keys := s.keys.map fun key => key.filter fun k => !isStale s.cursor k }

/-- Opens a block collection at a column deeper than the current one. -/
def openBlock (s : Scanner) (column : Int) (position : Option Nat) (t : Token) : Scanner :=
  if s.inFlow || column ≤ s.indent then s
  else
    let s := { s with outer := s.indent :: s.outer, indent := column }
    match position with
    | some n => s.insertAt n t
    | none => s.push t

/-- Closes the block collections that are indented deeper than a column. -/
def closeBlocks (column : Int) : List Int → Scanner → Scanner
  | [], s => s
  | i :: outer, s =>
    if s.inFlow || s.indent ≤ column then s
    else closeBlocks column outer ({ s with indent := i, outer }.push .blockEnd)

def closeTo (s : Scanner) (column : Int) : Scanner :=
  closeBlocks column s.outer s

/-- Moves over blanks, comments and line breaks to the next token. -/
def toNextToken : Nat → Scanner → Scanner
  | 0, s => s
  | fuel + 1, s =>
    let c := s.cursor
    let c := if c.column == 0 && (c.peek.any fun x => x.toNat == 0xfeff) then c.skip else c
    let tabs := s.inFlow || !s.keyAllowed
    let c := c.skipWhile fun x => x == ' ' || (tabs && x == '\t')
    let c := if c.isAt 0 '#' then c.skipWhile (fun x => !Cursor.isBreakChar x) else c
    if c.breakAt 0 then
      toNextToken fuel
        { s with cursor := c.skipLine, keyAllowed := s.keyAllowed || !s.inFlow }
    else { s with cursor := c }

/-- Skips the mark at the cursor and adds its token. -/
def mark (s : Scanner) (n : Nat) (t : Token) : Scanner :=
  { s with cursor := s.cursor.skipMany n }.push t

/-- A number of a version directive: one to nine digits. -/
def versionNumber? (c : Cursor) : Option (Nat × Cursor) :=
  let digits := c.rest.takeWhile Char.isDigit
  if 9 < digits.length then none
  else (Text.natOfDigits? 10 digits).map (·, c.skipMany digits.length)

/-- The bytes of a character in UTF-8 that follow a first byte. -/
def utf8Tail (first : Nat) : Option Nat :=
  if first < 0x80 then some 0
  else if 0xc0 ≤ first && first < 0xe0 then some 1
  else if 0xe0 ≤ first && first < 0xf0 then some 2
  else if 0xf0 ≤ first && first < 0xf8 then some 3
  else none

/-- The byte of a percent escape. -/
def percentByte? (c : Cursor) : Option (Nat × Cursor) :=
  if c.isAt 0 '%' then
    let digits := (c.rest.drop 1).take 2
    if digits.length = 2 then (Text.natOfDigits? 16 digits).map (·, c.skipMany 3) else none
  else none

/-- Further bytes of a character written by percent escapes. -/
def percentTail (bytes : List Nat) : Nat → Cursor → Option (List Nat × Cursor)
  | 0, c => some (bytes, c)
  | n + 1, c => do
    let (b, c) ← percentByte? c
    if b / 0x40 = 2 then percentTail (bytes ++ [b]) n c else none

/-- The bytes of one character written by percent escapes. They have the form of a character, but
need not be one. -/
def percentChar? (c : Cursor) : Option (List UInt8 × Cursor) := do
  let (first, c) ← percentByte? c
  let n ← utf8Tail first
  let (bytes, c) ← percentTail [first] n c
  some (bytes.map Nat.toUInt8, c)

def isUriChar (wide : Bool) (c : Char) : Bool :=
  Cursor.isNameChar c || ";/?:@&=+$.!~*'()".toList.contains c ||
    (wide && (c == ',' || c == '[' || c == ']'))

/-- The bytes of a tag, with percent escapes resolved. -/
def uriRun (wide : Bool) (acc : List UInt8) : Nat → Cursor → Option (List UInt8 × Cursor)
  | 0, c => some (acc, c)
  | fuel + 1, c =>
    match c.peek with
    | none => some (acc, c)
    | some x =>
      if x == '%' then do
        let (xs, c) ← percentChar? c
        uriRun wide (acc ++ xs) fuel c
      else if isUriChar wide x then uriRun wide (acc ++ [x.toUInt8]) fuel c.skip
      else some (acc, c)

/-- A part of a tag of at least one character, counting those of `head`. -/
def tagUri? (wide : Bool) (head : List Char) (c : Cursor) : Option (Tag × Cursor) := do
  let (bytes, after) ← uriRun wide (head.tail.map Char.toUInt8) (c.rest.length + 1) c
  if head.isEmpty && after.index == c.index then none else some (.ofBytes bytes, after)

/-- A tag handle: `!`, `!!` or `!name!`. In a tag only the exclamation mark before a name without
a second one is also possible. -/
def tagHandle? (directive : Bool) (c : Cursor) : Option (List Char × Cursor) :=
  if !c.isAt 0 '!' then none
  else
    let name := (c.rest.drop 1).takeWhile Cursor.isNameChar
    let c := c.skipMany (1 + name.length)
    if c.isAt 0 '!' then some ('!' :: name ++ ['!'], c.skip)
    else if directive && !name.isEmpty then none
    else some ('!' :: name, c)

def fetchDirective (s : Scanner) : Option Scanner := do
  let s ← (s.closeTo (-1)).dropKey
  let c := s.cursor.skip
  let name := c.rest.takeWhile Cursor.isNameChar
  let c := c.skipMany name.length
  if name.isEmpty || !c.gapAt 0 then none
  else
    let c := c.skipWhile Cursor.isBlankChar
    let (t, c) ←
      if name == "YAML".toList then do
        let (major, c) ← versionNumber? c
        if !c.isAt 0 '.' then none
        else
          let (minor, c) ← versionNumber? c.skip
          some (Token.versionDirective major minor, c)
      else if name == "TAG".toList then do
        let (handle, c) ← tagHandle? true c
        if !c.blankAt 0 then none
        else
          let (lead, c) ← tagUri? true [] (c.skipWhile Cursor.isBlankChar)
          if !c.gapAt 0 then none
          else some (Token.tagDirective (String.ofList handle) lead, c)
      else none
    let c := c.skipWhile Cursor.isBlankChar
    let c := if c.isAt 0 '#' then c.skipWhile (fun x => !Cursor.isBreakChar x) else c
    if !c.breakOrEndAt 0 then none
    else some ({ s with cursor := c.skipLine, keyAllowed := false }.push t)

def fetchDocumentMark (s : Scanner) (t : Token) : Option Scanner := do
  let s ← (s.closeTo (-1)).dropKey
  some ({ s with keyAllowed := false }.mark 3 t)

def fetchFlowStart (s : Scanner) (t : Token) : Option Scanner := do
  let s ← s.noteKey
  let s := s.mark 1 t
  some { s with keys := none :: s.keys, flowLevel := s.flowLevel + 1, keyAllowed := true }

def fetchFlowEnd (s : Scanner) (t : Token) : Option Scanner := do
  let s ← s.dropKey
  let s := if s.inFlow then { s with flowLevel := s.flowLevel - 1, keys := s.keys.tail } else s
  some ({ s with keyAllowed := false }.mark 1 t)

def fetchFlowEntry (s : Scanner) : Option Scanner := do
  let s ← s.dropKey
  some ({ s with keyAllowed := true }.mark 1 .flowEntry)

def fetchBlockEntry (s : Scanner) : Option Scanner := do
  if !s.inFlow && !s.keyAllowed then none
  else
    let s ← (s.openBlock s.cursor.column none .blockSequenceStart).dropKey
    some ({ s with keyAllowed := true }.mark 1 .blockEntry)

def fetchKey (s : Scanner) : Option Scanner := do
  if !s.inFlow && !s.keyAllowed then none
  else
    let s ← (s.openBlock s.cursor.column none .blockMappingStart).dropKey
    some ({ s with keyAllowed := !s.inFlow }.mark 1 .key)

def fetchValue (s : Scanner) : Option Scanner :=
  match s.key? with
  | some key =>
    let s := s.insertAt key.position .key
    let s := s.openBlock key.column (some key.position) .blockMappingStart
    some ({ s.setKey none with keyAllowed := false }.mark 1 .value)
  | none =>
    if !s.inFlow && !s.keyAllowed then none
    else
      let s := s.openBlock s.cursor.column none .blockMappingStart
      some ({ s with keyAllowed := !s.inFlow }.mark 1 .value)

def fetchAnchor (s : Scanner) (make : String → Token) : Option Scanner := do
  let s ← s.noteKey
  let c := s.cursor.skip
  let name := c.rest.takeWhile Cursor.isNameChar
  let c := c.skipMany name.length
  let ended := c.gapAt 0 || c.peek.any fun x =>
    "?:,]%@".toList.contains x || x.toNat == 0x7d || x.toNat == 0x60
  if name.isEmpty || !ended then none
  else some ({ s with cursor := c, keyAllowed := false }.push (make (String.ofList name)))

def fetchTag (s : Scanner) : Option Scanner := do
  let s ← s.noteKey
  let c := s.cursor
  let (t, c) ←
    if c.isAt 1 '<' then do
      let (uri, c) ← tagUri? true [] (c.skipMany 2)
      if c.isAt 0 '>' then some (Token.tag "" uri, c.skip) else none
    else do
      let (handle, c) ← tagHandle? false c
      if 1 < handle.length && handle.getLast? == some '!' then do
        let (suffix, c) ← tagUri? false [] c
        some (Token.tag (String.ofList handle) suffix, c)
      else do
        let (suffix, c) ← tagUri? false handle c
        some (if suffix.isEmpty then Token.tag "" (.ofString "!") else Token.tag "!" suffix, c)
  if c.gapAt 0 || (s.inFlow && c.isAt 0 ',') then
    some ({ s with cursor := c, keyAllowed := false }.push t)
  else none

def fetchBlockScalar (s : Scanner) (isLiteral : Bool) : Option Scanner := do
  let s ← s.dropKey
  let (text, c) ← blockScalar? isLiteral s.indent s.cursor
  some ({ s with cursor := c, keyAllowed := true }.push (.scalar text false))

def fetchQuoted (s : Scanner) (single : Bool) : Option Scanner := do
  let s ← s.noteKey
  let (text, c) ← quotedScalar? single s.cursor
  some ({ s with cursor := c, keyAllowed := false }.push (.scalar text false))

def fetchPlain (s : Scanner) : Option Scanner := do
  let s ← s.noteKey
  let (text, broken, c) ← plainScalar? s.inFlow (s.indent + 1) s.cursor
  some ({ s with cursor := c, keyAllowed := broken }.push (.scalar text true))

/-- Whether a plain scalar may start with this character whatever follows it. -/
def startsPlain (c : Char) : Bool :=
  !("-?:,[]#&*!|>'\"%@".toList.contains c || c.toNat == 0x7b || c.toNat == 0x7d ||
    c.toNat == 0x60 || Cursor.isBlankChar c || Cursor.isBreakChar c)

/-- The token at the cursor, which stands on the character `x`. -/
def fetch (s : Scanner) (x : Char) : Option Scanner :=
  let c := s.cursor
  if c.column == 0 && x == '%' then s.fetchDirective
  else if c.atDocumentMark '-' then s.fetchDocumentMark .documentStart
  else if c.atDocumentMark '.' then s.fetchDocumentMark .documentEnd
  else if x == '[' then s.fetchFlowStart .flowSequenceStart
  else if x.toNat == 0x7b then s.fetchFlowStart .flowMappingStart
  else if x == ']' then s.fetchFlowEnd .flowSequenceEnd
  else if x.toNat == 0x7d then s.fetchFlowEnd .flowMappingEnd
  else if x == ',' then s.fetchFlowEntry
  else if x == '-' && c.gapAt 1 then s.fetchBlockEntry
  else if x == '?' && (s.inFlow || c.gapAt 1) then s.fetchKey
  else if x == ':' && (s.inFlow || c.gapAt 1) then s.fetchValue
  else if x == '*' then s.fetchAnchor .alias
  else if x == '&' then s.fetchAnchor .anchor
  else if x == '!' then s.fetchTag
  else if x == '|' && !s.inFlow then s.fetchBlockScalar true
  else if x == '>' && !s.inFlow then s.fetchBlockScalar false
  else if x == '\'' then s.fetchQuoted true
  else if x == '"' then s.fetchQuoted false
  else if startsPlain x || (x == '-' && !c.blankAt 1) ||
      (!s.inFlow && (x == '?' || x == ':') && !c.gapAt 1) then s.fetchPlain
  else none

/-- Scans to the end of the text; every step but the last moves the cursor. -/
def run : Nat → Scanner → Option (Array Token)
  | 0, _ => none
  | fuel + 1, s => do
    let s ← (toNextToken (s.cursor.rest.length + 1) s).dropStaleKeys
    let s := s.closeTo s.cursor.column
    match s.cursor.peek with
    | none =>
      let s ← (s.closeTo (-1)).dropKey
      some (s.push .streamEnd).tokens
    | some x => (s.fetch x).bind (run fuel)

end Scanner

/-- Characters that YAML text may hold. -/
def isAllowed (c : Char) : Bool :=
  let n := c.toNat
  n == 0x09 || n == 0x0a || n == 0x0d || (0x20 ≤ n && n ≤ 0x7e) || n == 0x85 ||
    (0xa0 ≤ n && n ≤ 0xfffd) || 0x10000 ≤ n

/-- The tokens of YAML text; none if the text is malformed. -/
def tokens? (s : String) : Option (List Token) :=
  let cs := s.toList
  if cs.all isAllowed then
    (Scanner.run (2 * cs.length + 2) { cursor := { rest := cs } }).map Array.toList
  else none

end RouteContract.Yaml
