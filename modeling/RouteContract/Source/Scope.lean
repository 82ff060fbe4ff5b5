import RouteContract.Source.Code

/-!
What is known about names at a call: the types of variables, the type of `self`, and the traits
that type parameters are bound by.
-/

namespace RouteContract.Source

structure Scope where
  /-- Types of variables; the latest binding of a name comes first. -/
  bindings : List (String × TypeExpr) := []
  /-- The type of `self`. -/
  self : Option TypeExpr := none
  bounds : Bounds := []
  deriving Inhabited

namespace Scope

def bind (s : Scope) (name : String) (t : TypeExpr) : Scope :=
  { s with bindings := (name, t) :: s.bindings }

def binding? (s : Scope) (name : String) : Option TypeExpr :=
  s.bindings.lookup name

def addBounds (s : Scope) (bounds : Bounds) : Scope :=
  { s with bounds := s.bounds ++ bounds }

/-- All traits that a type parameter is bound by, if it is one. -/
def boundsOf? (s : Scope) (param : String) : Option (List String) :=
  match s.bounds.filter (·.1 == param) with
  | [] => none
  | entries => some (entries.flatMap (·.2))

/-- The scope in which the body of a function starts. -/
def ofSignature (signature : Signature) (self : Option TypeExpr) : Scope :=
  signature.params.foldl (fun s p =>
    match p.name with
    | some name => s.bind name p.type
    | none => s) { self, bounds := signature.bounds }

end Scope

/-- The type that a name stands for. The word `try` can end a path but names no type. -/
def typeOfName? (name : String) : Option TypeExpr :=
  if name == "try" then none else some (.ofName name)

/-- The type that a constructor call such as `Routes::new()` has: the owner of the function. -/
def ownerType? (names : List String) : Option TypeExpr :=
  match names.reverse with
  | _ :: owner :: _ => typeOfName? owner
  | _ => none

end RouteContract.Source
