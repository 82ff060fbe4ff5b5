import RouteContract.Source.Index

/-!
What an alias or an import stands for. A step replaces a name by the type it is an alias of, or by
the name that an import has renamed; expansion takes at most nine steps.
-/

namespace RouteContract.Source

/-- Why a type cannot be followed. -/
inductive Breakdown where
  /-- An import renames a raw name, and the new name is used as a type. -/
  | rawName (name : String)
  /-- The aliases lead back to themselves. -/
  | endless
  deriving DecidableEq, Repr, Inhabited

namespace Index

/-- What a name leads to in one step. -/
inductive Step where
  | stop
  | type (t : TypeExpr)
  | rename (name : String)

/-- The step from a type. Only a single name leads on, and an alias only if it has no arguments. -/
def step (index : Index) : TypeExpr → Step
  | .named lead name applied _ =>
    if lead.qualified || !lead.names.isEmpty then .stop
    else
      match (if applied then none else index.aliases.lookup name) with
      | some target => .type target
      | none =>
        match index.renames.lookup name with
        | some old => .rename old
        | none => .stop
  | _ => .stop

/-- A named type under another name. -/
def renamed (name : String) : TypeExpr → TypeExpr
  | .named lead _ applied arguments => .named lead name applied arguments
  | t => t

def isRawName (name : String) : Bool := "r#".toList.isPrefixOf name.toList

def expandWithin (index : Index) : Nat → TypeExpr → Except Breakdown TypeExpr
  | 0, t => .ok t
  | n + 1, t =>
    match index.step t with
    | .stop => .ok t
    | .type target => expandWithin index n target
    | .rename name =>
      if isRawName name then .error (.rawName name) else expandWithin index n (renamed name t)

/-- The number of steps that an expansion takes at most. -/
def expansionSteps : Nat := 9

/-- Follows aliases and renaming imports. -/
def expand (index : Index) (t : TypeExpr) : Except Breakdown TypeExpr :=
  index.expandWithin expansionSteps t

end Index

end RouteContract.Source
