/-!
Types as a source file writes them. Only what a contract can show is kept: names and type
arguments, but no lifetimes, no array lengths and no function types.
-/

namespace RouteContract.Source

/-- What stands before the last name of a path: a self type in angle brackets, a leading `::`, and
further names. -/
structure Lead where
  qualified : Bool := false
  rooted : Bool := false
  names : List String := []
  deriving DecidableEq, Repr, Inhabited

/-- A type. A named type may be applied to arguments, of which the types are kept; an `impl` or
`dyn` type is known by the names of its traits. -/
inductive TypeExpr where
  | named (lead : Lead) (name : String) (applied : Bool) (arguments : List TypeExpr)
  | reference (target : TypeExpr)
  | paren (inner : TypeExpr)
  | sequence (element : TypeExpr)
  | bounded (traits : List String)
  | other
  deriving Inhabited

namespace TypeExpr

/-- The type of a name that stands alone. -/
def ofName (name : String) : TypeExpr := .named {} name false []

/-- The last name of a path, also in parentheses. -/
def simpleName? : TypeExpr → Option String
  | named _ name _ _ => some name
  | paren inner => inner.simpleName?
  | _ => none

/-- The type behind references and parentheses. -/
def stripReferences : TypeExpr → TypeExpr
  | reference t => t.stripReferences
  | paren t => t.stripReferences
  | t => t

/-- Types that carry the payload of a handler as their first argument. -/
def isPayloadWrapper (name : String) : Bool :=
  ["Json", "Form", "Query", "Result"].contains name

/-- The payload inside the wrappers of a handler's parameter or result. -/
def payload : TypeExpr → TypeExpr
  | named lead name applied (t :: ts) =>
    if isPayloadWrapper name then t.payload else named lead name applied (t :: ts)
  | t => t

end TypeExpr

end RouteContract.Source
