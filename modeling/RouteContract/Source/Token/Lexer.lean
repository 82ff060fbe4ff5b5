import RouteContract.Source.Token.Literal

/-!
From the text of a source file to token trees. Blank space and comments are left out; a comment
that documents what follows it stands for an attribute with its text.
-/

namespace RouteContract.Source

open Text

/-- What can stand at the start of a text. -/
inductive Piece where
  | blank
  | doc (inner : Bool) (text : String)
  | opening (d : Delimiter)
  | closing (d : Delimiter)
  | leaf (t : Tree)

/-- Blank space between tokens; two marks of writing direction count as blank. -/
def isTokenBlank (c : Char) : Bool :=
  isBlank c || c.toNat == 0x200e || c.toNat == 0x200f

/-- The length of a comment with its nested comments, from its opening mark on; the first
argument is the number of comments that are open. -/
def commentLength? (depth : Nat) : List Char → Option Nat
  | '/' :: '*' :: cs => (commentLength? (depth + 1) cs).map (· + 2)
  | '*' :: '/' :: cs =>
    if depth ≤ 1 then some 2 else (commentLength? (depth - 1) cs).map (· + 2)
  | _ :: cs => (commentLength? depth cs).map (· + 1)
  | [] => none

/-- The characters before the end of the line. -/
def lineRest : List Char → List Char
  | [] => []
  | '\n' :: _ => []
  | '\r' :: '\n' :: _ => []
  | c :: cs => c :: lineRest cs

/-- A carriage return that does not end a line. -/
def hasBareReturn : List Char → Bool
  | [] => false
  | '\r' :: '\n' :: cs => hasBareReturn cs
  | c :: cs => c == '\r' || hasBareReturn cs

/-- The piece for a documenting comment with the given text. -/
def docPiece? (inner : Bool) (text : List Char) (length : Nat) : Option (Piece × Nat) :=
  if hasBareReturn text then none else some (.doc inner (String.ofList text), length)

/-- The piece for a documenting comment that ends with its line. -/
def docLine? (inner : Bool) (cs : List Char) : Option (Piece × Nat) :=
  let text := lineRest (cs.drop 3)
  docPiece? inner text (text.length + 3)

/-- The piece for a documenting comment with a closing mark. -/
def docBlock? (inner : Bool) (cs : List Char) : Option (Piece × Nat) :=
  (commentLength? 0 cs).bind fun n => docPiece? inner ((cs.take (n - 2)).drop 3) n

/-- A comment at the start of the characters; none if it does not end. -/
def comment? (cs : List Char) : Option (Piece × Nat) :=
  let starts (lead : String) := lead.toList.isPrefixOf cs
  if starts "//!" then docLine? true cs
  else if starts "///" && !starts "////" then docLine? false cs
  else if starts "//" then some (.blank, (lineRest cs).length)
  else if starts "/**/" then some (.blank, 4)
  else if starts "/*!" then docBlock? true cs
  else if starts "/**" && !starts "/***" then docBlock? false cs
  else (commentLength? 0 cs).map fun n => (.blank, n)

def isMark (c : Char) : Bool :=
  "~!@#$%^&*-=+|;:,<.>/?".toList.contains c

def startsComment (cs : List Char) : Bool :=
  "//".toList.isPrefixOf cs || "/*".toList.isPrefixOf cs

/-- Names that cannot be made raw. -/
def isNeverRaw (name : String) : Bool :=
  ["_", "super", "self", "Self", "crate"].contains name

/-- A name, raw or not, with its length. -/
def name? (cs : List Char) : Option (String × Nat) :=
  let plain (cs : List Char) := (cs.take (nameLength cs), nameLength cs)
  match cs with
  | 'r' :: '#' :: rest =>
    let (name, n) := plain rest
    if n == 0 || isNeverRaw (String.ofList name) then none
    else some (String.ofList ('r' :: '#' :: name), n + 2)
  | _ =>
    let (name, n) := plain cs
    if n == 0 then none else some (String.ofList name, n)

/-- A quote opens a lifetime if a name follows and no quote closes it. -/
def lifetime? (cs : List Char) : Option Nat :=
  match cs with
  | '\'' :: rest =>
    (name? rest).bind fun (_, n) =>
      match (rest.drop n).head? with
      | some '\'' => none
      | some '#' => if "r#".toList.isPrefixOf rest then some (n + 1) else none
      | _ => some (n + 1)
  | _ => none

/-- Beginnings of literals that are no names even where the literal is malformed. -/
def isLiteralLead (cs : List Char) : Bool :=
  ["r\"", "r#\"", "r##", "b\"", "b'", "br\"", "br#", "c\"", "cr\"", "cr#"].any fun lead =>
    lead.toList.isPrefixOf cs

/-- A token that is no delimiter. A quote before the name of a lifetime stands alone if that name
begins a literal. -/
def leaf? (pos : Pos) (cs : List Char) : Option (Tree × Nat) :=
  match literal? cs with
  | some (l, n) => some (.literal l, n)
  | none =>
    match lifetime? cs, cs with
    | some n, _ =>
      if (literal? (cs.drop 1)).isSome then some (.mark '\'' true, 1) else some (.lifetime, n)
    | none, c :: rest =>
      if isMark c then
        let joint := match rest with
          | d :: _ => (isMark d || d == '\'') && !startsComment rest
          | [] => false
        some (.mark c joint, 1)
      else if isLiteralLead cs then none
      else (name? cs).map fun (name, n) => (.word name pos, n)
    | none, [] => none

/-- What stands for a literal that could not be written. -/
def lostLiteral : List Char := "(/*ERROR*/)".toList

/-- The piece at the start of the characters, and how many of them it takes. -/
def piece? (pos : Pos) (cs : List Char) : Option (Piece × Nat) :=
  match cs with
  | [] => none
  | c :: rest =>
    if isTokenBlank c then some (.blank, (rest.takeWhile isTokenBlank).length + 1)
    else if startsComment cs then comment? cs
    else if lostLiteral.isPrefixOf cs then some (.leaf (.literal .other), lostLiteral.length)
    else if c == '(' then some (.opening .paren, 1)
    else if c == ')' then some (.closing .paren, 1)
    else if c == '[' then some (.opening .bracket, 1)
    else if c == ']' then some (.closing .bracket, 1)
    else if c.toNat == 0x7b then some (.opening .brace, 1)
    else if c.toNat == 0x7d then some (.closing .brace, 1)
    else (leaf? pos cs).map fun (t, n) => (.leaf t, n)

/-- The pieces of a text in order. -/
def pieces? (pos : Pos) (cs : List Char) : Option (List Piece) :=
  match cs with
  | [] => some []
  | c :: rest =>
    match piece? pos (c :: rest) with
    | none => none
    | some (p, n) =>
      -- Every piece takes at least one character.
      (pieces? (pos.advance ((c :: rest).take n)) (rest.drop (n - 1))).map (p :: ·)
termination_by cs.length
decreasing_by rw [List.length_cons, List.length_drop]; omega

/-- The attribute that a documenting comment stands for. -/
def docTrees (inner : Bool) (text : String) : List Tree :=
  let note := Tree.group .bracket
    [.word "doc" .start, .mark '=' false, .literal (.text text)]
  if inner then [.mark '#' false, .mark '!' false, note] else [.mark '#' false, note]

/-- Groups that are open, innermost first, each with the trees before it, last first. -/
abbrev Opened := List (Delimiter × List Tree)

/-- Builds the trees of a list of pieces. `done` holds the trees of the innermost open group, last
first. Delimiters that do not match end the reading. -/
def assemble? (opened : Opened) (done : List Tree) : List Piece → Option (List Tree)
  | [] => if opened.isEmpty then some done.reverse else none
  | .blank :: ps => assemble? opened done ps
  | .doc inner text :: ps => assemble? opened ((docTrees inner text).reverse ++ done) ps
  | .leaf t :: ps => assemble? opened (t :: done) ps
  | .opening d :: ps => assemble? ((d, done) :: opened) [] ps
  | .closing d :: ps =>
    match opened with
    | (d', before) :: opened' =>
      if d = d' then assemble? opened' (.group d done.reverse :: before) ps else none
    | [] => none

/-- The token trees of a text; none if it has a character that begins no token, a literal or
comment without an end, or delimiters that do not match. -/
def tokens? (text : String) : Option (List Tree) :=
  let cs := match text.toList with
    | c :: rest => if c.toNat == 0xfeff then rest else c :: rest
    | [] => []
  (pieces? .start cs).bind (assemble? [] [])

/-- The characters without blank space and comments at their start. -/
def skipBlank (cs : List Char) : List Char :=
  match cs with
  | [] => []
  | c :: rest =>
    match (if isTokenBlank c || startsComment (c :: rest) then piece? .start (c :: rest)
        else none) with
    | some (.blank, n) => skipBlank (rest.drop (n - 1))
    | _ => c :: rest
termination_by cs.length
decreasing_by rw [List.length_cons, List.length_drop]; omega

/-- The token trees of a file. A first line that names an interpreter is no token; it ends before
its line feed, so that lines keep their numbers. -/
def fileTokens? (text : String) : Option (List Tree) :=
  let cs := match text.toList with
    | c :: rest => if c.toNat == 0xfeff then rest else c :: rest
    | [] => []
  let body := match cs with
    | '#' :: '!' :: rest =>
      if (skipBlank rest).head? == some '[' then cs else cs.dropWhile (· != '\n')
    | _ => cs
  tokens? (String.ofList body)

end RouteContract.Source
