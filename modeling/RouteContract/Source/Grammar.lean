import RouteContract.Source.Code

/-!
The means by which source is read. A rule takes trees from the front of a list, and fails or
answers with what it has read. The rules for types, patterns, expressions and declarations need
each other; each of them is written over a `Grammar` that holds all of them, and the knot is tied
by a depth that the number of tokens bounds.
-/

namespace RouteContract.Source

/-- What is left to read, and the expressions met inside types, patterns and attributes, last
first. -/
structure Input where
  rest : List Tree
  found : List Expr := []

abbrev Rule := StateT Input Option

namespace Rule

def isWord (word : String) : List Tree → Bool
  | .word w _ :: _ => w == word
  | _ => false

def isAnyWord : List Tree → Bool
  | .word _ _ :: _ => true
  | _ => false

/-- Words that are no names. -/
def keywords : List String :=
  ["_", "abstract", "as", "async", "await", "become", "box", "break", "const", "continue", "crate",
   "do", "dyn", "else", "enum", "extern", "false", "final", "fn", "for", "if", "impl", "in", "let",
   "loop", "macro", "match", "mod", "move", "mut", "override", "priv", "pub", "ref", "return",
   "Self", "self", "static", "struct", "super", "trait", "true", "try", "type", "typeof", "unsafe",
   "unsized", "use", "virtual", "where", "while", "yield"]

def isName : List Tree → Bool
  | .word w _ :: _ => !keywords.contains w
  | _ => false

/-- Whether an operator of one or more marks comes next. Its last mark may be part of a longer
operator. -/
def startsMarks : List Char → List Tree → Bool
  | [], _ => true
  | [c], .mark d _ :: _ => c == d
  | c :: cs, .mark d joint :: ts => c == d && joint && startsMarks cs ts
  | _, _ => false

def isMarks (op : String) (ts : List Tree) : Bool :=
  startsMarks op.toList ts

def isLifetime : List Tree → Bool
  | .lifetime :: _ => true
  | _ => false

def isGroup (d : Delimiter) : List Tree → Bool
  | .group d' _ :: _ => d == d'
  | _ => false

def isText : List Tree → Bool
  | .literal (.text _) :: _ => true
  | _ => false

/-- A literal, a truth value, or a number after a minus sign. -/
def isLiteral : List Tree → Bool
  | .literal _ :: _ => true
  | .word w _ :: _ => w == "true" || w == "false"
  | .mark '-' _ :: .literal (.whole ..) :: _ => true
  | .mark '-' _ :: .literal (.real ..) :: _ => true
  | _ => false

/-- One of the words that begin a path without being a name. -/
def isPathWord (ts : List Tree) : Bool :=
  ["super", "self", "Self", "crate"].any (isWord · ts)

def rest : Rule (List Tree) := return (← get).rest

def peek (p : List Tree → Bool) : Rule Bool := return p (← rest)

def atEnd : Rule Bool := peek List.isEmpty

/-- Leaves out some trees. -/
def skip (n : Nat) : Rule Unit := modify fun s => { s with rest := s.rest.drop n }

/-- Goes on only if the condition holds of what is left. -/
def require (p : List Tree → Bool) : Rule Unit := do
  guard (← peek p)

def eatMarks (op : String) : Rule Unit := do
  require (isMarks op)
  skip op.length

/-- Reads an operator if it comes next. -/
def tryMarks (op : String) : Rule Bool := do
  if ← peek (isMarks op) then
    skip op.length
    return true
  else return false

def eatWord (word : String) : Rule Unit := do
  require (isWord word)
  skip 1

def tryWord (word : String) : Rule Bool := do
  if ← peek (isWord word) then
    skip 1
    return true
  else return false

/-- Any word, with its place. -/
def word : Rule (String × Pos) := do
  match ← rest with
  | .word w pos :: _ =>
    skip 1
    return (w, pos)
  | _ => failure

/-- A word that is a name. -/
def name : Rule String := do
  require isName
  return (← word).1

/-- A name or the underscore. -/
def nameOrUnderscore : Rule String := do
  require fun ts => isName ts || isWord "_" ts
  return (← word).1

def tryLifetime : Rule Bool := do
  if ← peek isLifetime then
    skip 1
    return true
  else return false

/-- Reads a group to its end by a rule. -/
def inside {α : Type} (d : Delimiter) (r : Rule α) : Rule α := fun s =>
  match s.rest with
  | .group d' inner :: ts =>
    if d = d' then
      match r { s with rest := inner } with
      | some (a, s') => if s'.rest.isEmpty then some (a, { s' with rest := ts }) else none
      | none => none
    else none
  | _ => none

/-- The trees of the next group, whatever its delimiter, and whether it is in braces. -/
def anyGroup : Rule (List Tree × Bool) := do
  match ← rest with
  | .group d inner :: _ =>
    skip 1
    return (inner, d == .brace)
  | _ => failure

/-- Reads a whole list of trees by a rule, apart from everything else. -/
def readAll {α : Type} (r : Rule α) (ts : List Tree) : Option α :=
  match r { rest := ts } with
  | some (a, s) => if s.rest.isEmpty then some a else none
  | none => none

/-- Reads without taking anything if the rule fails. -/
def attempt {α : Type} (r : Rule α) : Rule (Option α) := fun s =>
  match r s with
  | some (a, s') => some (some a, s')
  | none => some (none, s)

def loopWithin {α : Type} (step : α → Rule (Option α)) : Nat → α → Rule α
  | 0, _ => failure
  | n + 1, a => do
    match ← step a with
    | some b => loopWithin step n b
    | none => return a

/-- Repeats a step until it has nothing more to say. Every step but the last takes a tree. -/
def loop {α : Type} (step : α → Rule (Option α)) (a : α) : Rule α := do
  loopWithin step ((← rest).length + 2) a

/-- Repeats a rule while a condition holds of what is left. -/
def manyWhile {α : Type} (p : List Tree → Bool) (r : Rule α) : Rule (List α) := do
  let found ← loop (fun (acc : List α) => do
    if ← peek p then return some ((← r) :: acc) else return none) []
  return found.reverse

/-- Elements with a separator between them and perhaps after them, up to a stop. -/
def separatedUntil {α : Type} (stop : List Tree → Bool) (separator : String) (r : Rule α) :
    Rule (List α) := do
  let found ← loop (fun (state : List α × Bool) => do
    if state.2 || (← peek stop) then return none
    else
      let acc := (← r) :: state.1
      if ← peek stop then return some (acc, true)
      else
        eatMarks separator
        return some (acc, false)) ([], false)
  return found.1.reverse

/-- Elements with commas between them up to the end of the group. -/
def separated {α : Type} (r : Rule α) : Rule (List α) :=
  separatedUntil List.isEmpty "," r

/-- Expressions that can hold no registration. -/
def isInert : Expr → Bool
  | .literal _ => true
  | .path _ [] => true
  | _ => false

/-- Notes an expression met inside a type, a pattern or an attribute. -/
def embed (e : Expr) : Rule Unit :=
  if isInert e then pure () else modify fun s => { s with found := e :: s.found }

/-- Reads by a rule and takes the expressions noted on the way. -/
def collect {α : Type} (r : Rule α) : Rule (α × List Expr) := fun s =>
  match r { s with found := [] } with
  | some (a, s') => some ((a, s'.found.reverse), { s' with found := s.found })
  | none => none

/-- Notes expressions that have been collected before. -/
def note (es : List Expr) : Rule Unit :=
  modify fun s => { s with found := es.reverse ++ s.found }

/-- Reads by a rule and forgets the expressions met on the way. -/
def unnoted {α : Type} (r : Rule α) : Rule α := do
  return (← collect r).1

/-- Reads by a rule, with the noted expressions as code. -/
def collectCode {α : Type} (r : Rule α) : Rule (α × List Code) := do
  let (a, es) ← collect r
  return (a, es.map .expr)

end Rule

/-- What reading needs to know about an expression besides its meaning. -/
inductive Shape where
  | plain
  /-- An expression that ends with a block and is a statement without a semicolon. -/
  | block
  | invocation (brace : Bool)
  | range
  | comparison
  deriving DecidableEq

structure Term where
  code : Expr
  shape : Shape := .plain

/-- An expression behind attributes that hold expressions of their own. -/
def Term.annotate (t : Term) (notes : List Expr) : Term :=
  { t with code := t.code.annotate notes }

/-- A type, and the traits by which it can begin a list of bounds if it stands in parentheses. -/
structure TypeForm where
  type : TypeExpr
  joinable : Option (List String) := none

/-- A bound of a type. -/
inductive Bound where
  | trait (name : String)
  | lifetime
  /-- The parameters that a type captures. -/
  | captures
  /-- A trait that is asked for at compile time; its name is not kept. -/
  | constant
  deriving DecidableEq

namespace Bound

def name? : Bound → Option String
  | trait name => some name
  | _ => none

/-- Whether the bound makes a type of its own, as a lifetime does not. -/
def isTrait : Bound → Bool
  | trait _ | constant => true
  | _ => false

/-- The names of the traits among some bounds. -/
def names (bs : List Bound) : List String := bs.filterMap name?

end Bound

/-- The bounds that a place allows besides traits and lifetimes. -/
structure BoundPlace where
  captures : Bool := false
  constant : Bool := false

namespace BoundPlace

/-- Behind the keyword `impl`. -/
def ofImpl : BoundPlace := ⟨true, true⟩

/-- Behind the colon of a parameter, a condition or a declaration. -/
def ofColon : BoundPlace := ⟨false, true⟩

/-- In a type that is known by its traits only. -/
def ofObject : BoundPlace := ⟨false, false⟩

end BoundPlace

/-- The rules that need each other. -/
structure Grammar where
  /-- A type; the flag allows bounds joined by a plus sign. -/
  typeForm : Bool → Rule TypeForm
  bound : BoundPlace → Rule Bound
  /-- An expression; the flag allows record literals. -/
  expr : Bool → Rule Term
  /-- An expression that ends early if it is a statement with a block. -/
  statementExpr : Rule Term
  /-- An operand with its prefix operators. -/
  operand : Bool → Rule Term
  /-- The operators after an operand, from a precedence on. -/
  operators : Bool → Nat → Term → Rule Term
  /-- A pattern without alternatives. -/
  pattern : Rule Pattern
  /-- The statements up to the end of a group. -/
  statements : Rule (List Code)
  /-- A declaration with its attributes. -/
  item : Rule Code
  /-- The fields of a record, in braces. -/
  fields : Rule (List (Field Expr))
  /-- An import below a path. -/
  imports : Bool → Rule (Option (List (String × String)))

/-- The grammar that reads nothing. -/
def Grammar.nothing : Grammar where
  typeForm _ := failure
  bound _ := failure
  expr _ := failure
  statementExpr := failure
  operand _ := failure
  operators _ _ _ := failure
  pattern := failure
  statements := failure
  item := failure
  fields := failure
  imports _ := failure

/-- A type; the flag allows bounds joined by a plus sign. -/
def Grammar.type (g : Grammar) (plus : Bool) : Rule TypeExpr := do
  return (← g.typeForm plus).type

/-- An expression where a type or attribute holds one. -/
def Grammar.embedded (g : Grammar) : Rule Unit := do
  Rule.embed (← g.expr true).code

end RouteContract.Source
