import RouteContract.Text.Basic

/-!
A place in YAML text and the ways to move on from it. Carriage return and line feed together are
one line break; a line break inside a scalar is kept as a line feed, except for the Unicode line
and paragraph separators.
-/

namespace RouteContract.Yaml

/-- The characters still to read, with the place of the first of them. -/
structure Cursor where
  rest : List Char
  index : Nat := 0
  line : Nat := 0
  column : Nat := 0

namespace Cursor

def isBlankChar (c : Char) : Bool :=
  c == ' ' || c == '\t'

def isBreakChar (c : Char) : Bool :=
  c == '\n' || c == '\r' || c.toNat == 0x85 || c.toNat == 0x2028 || c.toNat == 0x2029

/-- Letters, digits, underscore and hyphen, the characters of names. -/
def isNameChar (c : Char) : Bool :=
  c.isAlphanum || c == '_' || c == '-'

def peek (c : Cursor) : Option Char :=
  c.rest.head?

def peekAt (c : Cursor) (n : Nat) : Option Char :=
  (c.rest.drop n).head?

def isAt (c : Cursor) (n : Nat) (x : Char) : Bool :=
  c.peekAt n == some x

def atEnd (c : Cursor) : Bool :=
  c.rest.isEmpty

def blankAt (c : Cursor) (n : Nat) : Bool :=
  (c.peekAt n).any isBlankChar

def breakAt (c : Cursor) (n : Nat) : Bool :=
  (c.peekAt n).any isBreakChar

/-- A line break, or the end of the text. -/
def breakOrEndAt (c : Cursor) (n : Nat) : Bool :=
  (c.peekAt n).all isBreakChar

/-- A blank, a line break, or the end of the text. -/
def gapAt (c : Cursor) (n : Nat) : Bool :=
  (c.peekAt n).all fun x => isBlankChar x || isBreakChar x

/-- Moves over one character of the line. -/
def skip (c : Cursor) : Cursor :=
  match c.rest with
  | [] => c
  | _ :: rest => { c with rest, index := c.index + 1, column := c.column + 1 }

def skipMany (c : Cursor) (n : Nat) : Cursor :=
  match n with
  | 0 => c
  | n + 1 => c.skip.skipMany n

/-- Moves over a line break, if there is one. -/
def skipLine (c : Cursor) : Cursor :=
  match c.rest with
  | '\r' :: '\n' :: rest => ⟨rest, c.index + 2, c.line + 1, 0⟩
  | x :: rest => if isBreakChar x then ⟨rest, c.index + 1, c.line + 1, 0⟩ else c
  | [] => c

/-- How the line break at the cursor stands in a scalar. -/
def breakText (c : Cursor) : List Char :=
  match c.rest with
  | x :: _ =>
    if x.toNat == 0x2028 || x.toNat == 0x2029 then [x]
    else if isBreakChar x then ['\n'] else []
  | [] => []

/-- Moves over the characters of the line that satisfy `p`. -/
def skipWhile (c : Cursor) (p : Char → Bool) : Cursor :=
  let n := (c.rest.takeWhile p).length
  { c with rest := c.rest.drop n, index := c.index + n, column := c.column + n }

/-- Three equal marks at the start of a line, before a gap. -/
def atDocumentMark (c : Cursor) (x : Char) : Bool :=
  c.column == 0 && c.isAt 0 x && c.isAt 1 x && c.isAt 2 x && c.gapAt 3

def atAnyDocumentMark (c : Cursor) : Bool :=
  c.atDocumentMark '-' || c.atDocumentMark '.'

end Cursor

end RouteContract.Yaml
