import RouteContract.Endpoint.Metadata
import RouteContract.Source.Receiver

/-!
Finding the endpoints of a service. The scan walks through the code of all files and stops at every
method call that registers an endpoint, wherever it stands; each such site is then turned into an
endpoint, if its receiver can be a route builder and its types, verb and path are known.
-/

namespace RouteContract

open Source

/-- What a registering method says about the verb. -/
inductive VerbSource where
  | fixed (verb : Verb)
  /-- The verb is the first argument. -/
  | argument
  deriving DecidableEq, Repr, Inhabited

/-- The methods that register an endpoint. -/
def verbSource? (method : String) : Option VerbSource :=
  match method with
  | "map_get" => some (.fixed .get)
  | "map_post" => some (.fixed .post)
  | "map_put" => some (.fixed .put)
  | "map_delete" => some (.fixed .delete)
  | "map_patch" => some (.fixed .patch)
  | "map" => some .argument
  | _ => none

/-- A place in a file. -/
structure Place where
  file : List Files.Component
  pos : Pos
  deriving DecidableEq, Repr

/-- A call that registers an endpoint, with what is known where it stands. -/
structure Site where
  file : String
  scope : Scope
  call : Call
  verb : VerbSource
  /-- The calls chained behind it up to the next registration. -/
  tail : List Call
  deriving Inhabited

namespace Site

/-- The registrations of a chain, each with the calls that belong to it. -/
def ofChain (file : String) (scope : Scope) : List Call → List Site
  | [] => []
  | call :: calls =>
    match verbSource? call.name with
    | some verb =>
      ⟨file, scope, call, verb, calls.takeWhile fun c => (verbSource? c.name).isNone⟩ ::
        ofChain file scope calls
    | none => ofChain file scope calls

/-- Where the site stands. Two ways of writing a path are the same place. -/
def place (s : Site) : Place := ⟨Files.components s.file, s.call.pos⟩

end Site

/-- The type and the type parameters of the implementation that the walk is in. -/
structure ImplContext where
  self : String
  bounds : Bounds

/-- The state of a walk: the scope of the innermost function, the implementation around it, and the
sites found so far. -/
structure Walk where
  file : String
  scope : Scope := {}
  context : Option ImplContext := none
  sites : List Site := []

namespace Walk

def bind (w : Walk) (name : String) (t : TypeExpr) : Walk :=
  { w with scope := w.scope.bind name t }

/-- What a pattern with a type binds. -/
def bindTyped (w : Walk) : Pattern → Walk
  | .typed name t => w.bind name t
  | _ => w

/-- What a binding binds: a name with a type, or a name whose value is made by a constructor. -/
def bindLocal (w : Walk) (p : Pattern) (value : Option Expr) : Walk :=
  match p, value.map Expr.bare with
  | .typed name t, _ => w.bind name t
  | .name name, some (.call (.path names _) _) =>
    match ownerType? names with
    | some t => w.bind name t
    | none => w
  | _, _ => w

/-- The scope of a function that the walk enters. -/
def functionScope (w : Walk) (signature : Signature) : Scope :=
  match w.context with
  | some c => (Scope.ofSignature signature (typeOfName? c.self)).addBounds c.bounds
  | none => Scope.ofSignature signature none

/-- Walks through a function by `body`, in a scope of its own. -/
def inFunction (w : Walk) (signature : Signature) (body : Walk → Walk) : Walk :=
  let after := body { w with scope := w.functionScope signature }
  { after with scope := w.scope }

/-- Walks by `body` in another context. -/
def inContext (w : Walk) (context : Option ImplContext) (body : Walk → Walk) : Walk :=
  let after := body { w with context }
  { after with context := w.context }

/-- Notes the registrations of a chain. -/
def meetChain (w : Walk) (e : Expr) : Walk :=
  { w with sites := w.sites ++ Site.ofChain w.file w.scope e.chain }

mutual

/-- Walks through an expression. The flag tells that it is the receiver of a call whose chain has
been met, so that its own calls are not met again. -/
def expr (met : Bool) (w : Walk) : Expr → Walk
  | .literal _ => w
  | .path _ inner => exprs w inner
  | .call callee arguments => exprs (expr false w callee) arguments
  | .method receiver name pos types arguments =>
    if met then expr true w receiver
    else
      let w := w.meetChain (.method receiver name pos types arguments)
      expr true (exprs (chainArguments w receiver) arguments) receiver
  | .field base _ => expr false w base
  | .reference e => expr false w e
  | .paren e => expr false w e
  | .array es => exprs w es
  | .invocation _ _ => w
  | .closure params parts => codes false (params.foldl bindTyped w) parts
  | .operation left right => codes false (expr false w left) right
  | .marked notes e => expr false (exprs w notes) e
  | .unread => w
  | .other parts => codes false w parts

/-- Walks through the arguments of a chain, those nearest to the root first. -/
def chainArguments (w : Walk) : Expr → Walk
  | .method receiver _ _ _ arguments => exprs (chainArguments w receiver) arguments
  | _ => w

def exprs (w : Walk) : List Expr → Walk
  | [] => w
  | e :: es => exprs (expr false w e) es

def optionalExpr (w : Walk) : Option Expr → Walk
  | none => w
  | some e => expr false w e

/-- Walks through code. A function of its own leaves the implementation around it; one that is a
member of a trait or an implementation does not. -/
def code (member : Bool) (w : Walk) : Code → Walk
  | .expr e => expr false w e
  | .binding p lead value otherwise =>
    codes false (optionalExpr (codes false (w.bindLocal p value) lead) value) otherwise
  | .record _ parts => codes false w parts
  | .choice _ parts => codes false w parts
  | .typeAlias _ _ parts => codes false w parts
  | .constant _ lead value => expr false (codes false w lead) value
  | .function signature parts =>
    w.inContext (if member then w.context else none) fun w =>
      w.inFunction signature fun w => codes false w parts
  | .imports _ parts => codes false w parts
  | .module lead items => codes false (codes false w lead) items
  | .trait _ _ lead members => codes true (codes false w lead) members
  | .impl self bounds _ lead members =>
    w.inContext (self.map (⟨·, bounds⟩)) fun w => codes true (codes false w lead) members
  | .other parts => codes false w parts

/-- Walks through code piece by piece; the flag tells that the pieces are members. -/
def codes (member : Bool) (w : Walk) : List Code → Walk
  | [] => w
  | c :: cs => codes member (code member w c) cs

end

/-- Walks through a file. The bindings outside of functions stay. -/
def sourceFile (w : Walk) (f : SourceFile) : Walk :=
  codes false (codes false { w with file := f.path } f.lead) f.items

end Walk

/-- The sites of all files, in the order in which the walk meets them. -/
def sites (files : List SourceFile) : List Site :=
  (files.foldl Walk.sourceFile { file := "" }).sites

namespace Site

/-- The verb that an argument gives: a text that is a constant, or else the last name of a path. -/
def argumentVerb? (index : Index) (e : Expr) : Option Verb :=
  match index.constant? e with
  | some name => Verb.ofName? name
  | none => e.lastName?.bind Verb.ofName?

/-- The verb and the argument that gives the path. -/
def verbAndPath? (index : Index) (s : Site) : Option (Verb × Expr) :=
  match s.verb, s.call.arguments with
  | .fixed verb, path :: _ => some (verb, path)
  | .argument, verb :: path :: _ => (argumentVerb? index verb).map (·, path)
  | _, _ => none

/-- The type arguments of the registration. Where the type of the receiver is not known they are
taken as written; where it is known not to be a route builder there are none. -/
def typeArguments (index : Index) (s : Site) : Except Breakdown (List TypeExpr) := do
  match ← index.resolve s.scope s.call with
  | some r => return if r.isBuilder then r.typeArguments else []
  | none => return s.call.types

/-- The endpoint of given types at a site. -/
def endpointOf? (index : Index) (s : Site) (types : List TypeExpr) : Option Endpoint := do
  let request :: response :: _ := types | none
  let requestType ← request.simpleName?
  let responseType ← response.simpleName?
  let (verb, pathExpr) ← s.verbAndPath? index
  let path ← index.constant? pathExpr
  let m := Metadata.ofEndpoint index s.tail requestType
  return {
    verb, path, requestType, responseType
    requiresAuth := !m.allowAnonymous
    requestContentType := m.requestContentType.getD ContentType.json
    responseContentType := m.responseContentType.getD ContentType.json
    operationId := m.operationId
    summary := m.summary
    description := m.description
    tags := m.tags
    responses := m.responses
    sorted := m.sorted
    file := s.file
    line := s.call.pos.line }

/-- The endpoint that a site registers, if everything about it is known. -/
def endpoint? (index : Index) (s : Site) : Except Breakdown (Option Endpoint) := do
  return s.endpointOf? index (← s.typeArguments index)

end Site

/-- Keeps the first endpoint of every place. -/
def distinctPlaces (seen : List Place) : List (Place × Endpoint) → List Endpoint
  | [] => []
  | (place, e) :: rest =>
    if seen.contains place then distinctPlaces seen rest
    else e :: distinctPlaces (place :: seen) rest

/-- The endpoints that files register, in the order in which they are met. -/
def endpoints (index : Index) (files : List SourceFile) : Except Breakdown (List Endpoint) := do
  let found ← (sites files).mapM fun s => do
    return (← s.endpoint? index).map (s.place, ·)
  return distinctPlaces [] (found.filterMap id)

end RouteContract
