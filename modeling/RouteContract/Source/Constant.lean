import RouteContract.Source.Index

/-!
The texts that constant expressions stand for: literals, constants, `concat!` of such, and what
stands behind references and parentheses.
-/

namespace RouteContract.Source

def Literal.text? : Literal → Option String
  | .text s => some s
  | .char c => some (String.singleton c)
  | .whole n _ => some (toString n)
  | _ => none

namespace Index

/-- The names under which the constant of a path is looked up: its last two names joined, then its
last name. -/
def constantKeys (names : List String) : List String :=
  match names.reverse with
  | [] => []
  | [last] => [last]
  | last :: owner :: _ => [owner ++ "::" ++ last, last]

/-- The expression of the constant that a path names. -/
def constantExpr? (index : Index) (names : List String) : Option Expr :=
  (constantKeys names).findSome? (index.constants.lookup ·)

/-- The text of an expression, found within a number of nested steps. -/
def foldWithin (index : Index) : Nat → Expr → Option String
  | 0, _ => none
  | n + 1, e =>
    match e.bare with
    | .literal l => l.text?
    | .path names _ => (index.constantExpr? names).bind (index.foldWithin n)
    | .invocation "concat" (some parts) => (parts.mapM (index.foldWithin n)).map String.join
    | .reference e => index.foldWithin n e
    | .paren e => index.foldWithin n e
    | _ => none

/-- The number of nested steps within which a constant is found. -/
def foldingSteps : Nat := 9

/-- The text that an expression stands for. -/
def constant? (index : Index) (e : Expr) : Option String :=
  index.foldWithin foldingSteps e

end Index

end RouteContract.Source
