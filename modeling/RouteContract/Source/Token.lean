/-!
Tokens of service source. Tokens come as trees: what stands between two matching delimiters is
one token, so that every rule of the grammar works on a list that ends where its group ends.
-/

namespace RouteContract.Source

/-- A place in a source text; lines count from one, columns from zero. -/
structure Pos where
  line : Nat
  column : Nat
  deriving DecidableEq, Repr, Inhabited

namespace Pos

def start : Pos := ⟨1, 0⟩

def step (p : Pos) (c : Char) : Pos :=
  if c == '\n' then ⟨p.line + 1, 0⟩ else ⟨p.line, p.column + 1⟩

/-- The place after some characters. -/
def advance (p : Pos) (cs : List Char) : Pos :=
  cs.foldl step p

end Pos

/-- What a literal denotes. Byte and C strings are kept apart but not read. -/
inductive Literal where
  | text (value : String)
  | char (value : Char)
  | whole (value : Nat) (suffix : String)
  | real (written : String)
  | other
  deriving DecidableEq, Repr, Inhabited

inductive Delimiter where
  | paren
  | bracket
  | brace
  deriving DecidableEq, Repr, Inhabited

/-- A token. Words are names and keywords alike; a raw name keeps its mark `r#`. A punctuation
mark knows whether another one follows at once, which is how longer operators are told apart. -/
inductive Tree where
  | word (name : String) (pos : Pos)
  | mark (char : Char) (joint : Bool)
  | literal (value : Literal)
  | lifetime
  | group (delimiter : Delimiter) (inner : List Tree)
  deriving Repr, Inhabited

mutual

/-- The number of tokens in a tree, itself included. -/
def Tree.size : Tree → Nat
  | .group _ inner => treesSize inner + 1
  | _ => 1

/-- The number of tokens in a list of trees. -/
def treesSize : List Tree → Nat
  | [] => 0
  | t :: ts => t.size + treesSize ts

end

end RouteContract.Source
