import RouteContract.Source.Alias
import RouteContract.Source.Scope

/-!
The receiver of a method call: its type as far as the sources tell it, and whether that type makes
a route builder.
-/

namespace RouteContract.Source

/-- What is known about a method call whose receiver has a known type. -/
structure ResolvedCall where
  /-- The simple name of the receiver's type. -/
  receiverType : String
  isBuilder : Bool
  typeArguments : List TypeExpr
  deriving Inhabited

namespace Index

/-- The type of a named field of a record. -/
def fieldType? (index : Index) (owner field : String) : Option TypeExpr :=
  match index.types.lookup owner with
  | some (.record d) => (d.fields.find? (·.name == field)).map (·.type)
  | _ => none

/-- The declared type of a receiver. A chain of calls has the type of its root. -/
def receiverType? (index : Index) (scope : Scope) : Expr → Option TypeExpr
  | .path [name] _ => if name == "self" then scope.self else scope.binding? name
  | .field base member =>
    match index.receiverType? scope base, member with
    | some t, some field => t.stripReferences.simpleName?.bind (index.fieldType? · field)
    | _, _ => none
  | .call (.path names _) _ => ownerType? names
  | .method receiver _ _ _ _ => index.receiverType? scope receiver
  | .reference e => index.receiverType? scope e
  | .paren e => index.receiverType? scope e
  | .marked _ e => index.receiverType? scope e
  | _ => none

/-- Types that own another type and share its methods. -/
def isOwningWrapper (name : String) : Bool :=
  ["Box", "Arc", "Rc", "RefCell", "Mutex"].contains name

def isBuilderTrait (index : Index) (name : String) : Bool :=
  index.builderTraits.contains name

/-- Whether the name of a type makes a route builder: a type parameter by its bounds, any other
name if it is or contains the name of a builder. -/
def isBuilderName (index : Index) (scope : Scope) (name : String) : Bool :=
  match scope.boundsOf? name with
  | some bounds => bounds.any index.isBuilderTrait
  | none =>
    let canonical := (index.renames.lookup name).getD name
    index.builderTypes.contains canonical || index.builderTraits.contains canonical ||
      Text.contains canonical index.builderTrait

/-- Whether a type makes a route builder, looking through references and owning types. -/
def isBuilder (index : Index) (scope : Scope) : TypeExpr → Bool
  | .reference t => index.isBuilder scope t
  | .paren t => index.isBuilder scope t
  | .bounded traits => traits.any index.isBuilderTrait
  | .named _ name _ (t :: _) =>
    if isOwningWrapper name then index.isBuilder scope t else index.isBuilderName scope name
  | .named _ name _ [] => !isOwningWrapper name && index.isBuilderName scope name
  | _ => false

/-- The payload types of the handler that a call passes: the last argument that is a path names it.
A handler without parameters or without a result has none. -/
def handlerTypes (index : Index) (arguments : List Expr) : List TypeExpr :=
  match arguments.reverse.findSome? Expr.lastName? |>.bind (index.functions.lookup ·) with
  | some { params := p :: _, result := some result, .. } => [p.type.payload, result.payload]
  | _ => []

/-- What is known about a method call; none if the type of its receiver is not known. Type arguments
that are not written are taken from the handler. -/
def resolve (index : Index) (scope : Scope) (call : Call) :
    Except Breakdown (Option ResolvedCall) :=
  match index.receiverType? scope call.receiver with
  | none => .ok none
  | some t => do
    let written := if call.types.isEmpty then index.handlerTypes call.arguments else call.types
    let typeArguments ← written.mapM index.expand
    return some {
      receiverType := t.stripReferences.simpleName?.getD "impl"
      isBuilder := index.isBuilder scope t
      typeArguments }

end Index

end RouteContract.Source
