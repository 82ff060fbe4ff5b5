import RouteContract.Endpoint.Basic
import RouteContract.Source.Constant

/-!
What a service says about an endpoint besides its registration: by the calls chained behind it, and
by attributes of its request type. A chained call wins over an attribute. Reading asks the sources
only for the texts of expressions and for the declaration of the request type.
-/

namespace RouteContract

open Source (Expr Call Attribute Index TypeDecl)

/-- What the reading of settings asks of the sources. -/
structure Oracle where
  /-- The text that an expression stands for. -/
  constant? : Expr → Option String
  /-- The declared type of a name. -/
  lookupType? : String → Option TypeDecl

namespace Source.Index

/-- The oracle that a service uses: the index of its sources. -/
def oracle (index : Index) : Oracle where
  constant? := index.constant?
  lookupType? := index.lookupType?

instance : Coe Index Oracle := ⟨oracle⟩

@[simp] theorem constant?_oracle (index : Index) (e : Expr) :
    index.oracle.constant? e = index.constant? e := rfl

@[simp] theorem lookupType?_oracle (index : Index) (name : String) :
    index.oracle.lookupType? name = index.lookupType? name := rfl

end Source.Index

/-- Settings of an endpoint; what is none is not set. -/
structure Metadata where
  allowAnonymous : Bool := false
  operationId : Option String := none
  summary : Option String := none
  description : Option String := none
  tags : Option (List String) := none
  requestContentType : Option String := none
  responseContentType : Option String := none
  responses : Table Nat DeclaredResponse := []
  sorted : responses.Sorted := by exact Table.sorted_nil
  deriving Repr, Inhabited

namespace Metadata

/-- Fills what is not set from other settings; of their responses those count whose status is not
declared here. -/
def orElse (m fallback : Metadata) : Metadata where
  allowAnonymous := m.allowAnonymous || fallback.allowAnonymous
  operationId := m.operationId <|> fallback.operationId
  summary := m.summary <|> fallback.summary
  description := m.description <|> fallback.description
  tags := m.tags <|> fallback.tags
  requestContentType := m.requestContentType <|> fallback.requestContentType
  responseContentType := m.responseContentType <|> fallback.responseContentType
  responses := fallback.responses.foldl (fun t (status, r) => t.insertNew status r) m.responses
  sorted := m.sorted.foldl (fun _ entry h => h.insertNew entry.1 entry.2) _

def declare (m : Metadata) (status : Nat) (type : Option String) (contentType : String) :
    Metadata :=
  { m with
    responses := m.responses.insert status ⟨type, contentType⟩
    sorted := m.sorted.insert status ⟨type, contentType⟩ }

/-- Names of statuses that stand for themselves. -/
def namedStatus? (name : String) : Option Nat :=
  [("OK", 200), ("CREATED", 201), ("ACCEPTED", 202), ("NO_CONTENT", 204), ("BAD_REQUEST", 400),
   ("UNAUTHORIZED", 401), ("FORBIDDEN", 403), ("NOT_FOUND", 404), ("CONFLICT", 409),
   ("UNPROCESSABLE_ENTITY", 422), ("TOO_MANY_REQUESTS", 429), ("INTERNAL_SERVER_ERROR", 500),
   ("SERVICE_UNAVAILABLE", 503)].lookup name

/-- A status as a decimal number below 65536, perhaps with a plus sign. -/
def statusOfText? (text : String) : Option Nat :=
  let digits := match text.toList with
    | '+' :: rest => rest
    | cs => cs
  (Text.natOfDigits? 10 digits).filter (· < 65536)

variable (oracle : Oracle)

/-- The text of an argument, unless it is blank. -/
def textArgument? (arguments : List Expr) (i : Nat) : Option String :=
  (arguments[i]?.bind oracle.constant?).filter fun s => !Text.isBlankText s

def statusArgument? (arguments : List Expr) (i : Nat) : Option Nat :=
  arguments[i]?.bind fun e =>
    (e.lastName?.bind namedStatus?) <|> (oracle.constant? e).bind statusOfText?

mutual

/-- The texts of an expression, also inside arrays, references and `vec!`. -/
def textList : Expr → List String
  | .array es => textLists es
  | .reference e => textList e
  | .invocation "vec" (some es) => textLists es
  | .invocation "vec" none => []
  | .marked _ e => textList e
  | e => (oracle.constant? e).toList

def textLists : List Expr → List String
  | [] => []
  | e :: es => textList e ++ textLists es

end

/-- The name of the first type argument that has one. -/
def namedArgument? (call : Call) : Option String :=
  call.types.findSome? (·.simpleName?)

/-- The settings after one more call. -/
def applyCall (m : Metadata) (call : Call) : Metadata :=
  let text := textArgument? oracle call.arguments
  let status := statusArgument? oracle call.arguments
  match call.name with
  | "allow_anonymous" => { m with allowAnonymous := true }
  | "with_name" => { m with operationId := text 0 }
  | "with_summary" => { m with summary := text 0 }
  | "with_description" => { m with description := text 0 }
  | "with_tags" =>
    match textLists oracle call.arguments with
    | [] => m
    | tags => { m with tags := some tags }
  | "accepts" =>
    match text 0 with
    | some contentType => { m with requestContentType := some contentType }
    | none => m
  | "produces" =>
    match status 0, namedArgument? call with
    | some s, type => m.declare s type ((text 1).getD ContentType.json)
    | none, none =>
      match text 0 with
      | some contentType => { m with responseContentType := some contentType }
      | none => m
    | none, some _ => m
  | "produces_problem" =>
    match status 0 with
    | some s => m.declare s none ((text 1).getD ContentType.problem)
    | none => m
  | _ => m

/-- The settings of calls in the order in which they are written. -/
def ofCalls (calls : List Call) : Metadata :=
  calls.foldl (applyCall oracle) {}

/-- The settings after one more attribute. -/
def applyAttribute (m : Metadata) (note : Attribute Expr) : Metadata :=
  let text := textArgument? oracle note.arguments
  let status := statusArgument? oracle note.arguments
  match note.name with
  | some "allow_anonymous" => { m with allowAnonymous := true }
  | some "endpoint_name" => { m with operationId := text 0 }
  | some "endpoint_summary" => { m with summary := text 0 }
  | some "endpoint_description" => { m with description := text 0 }
  | some "tags" =>
    match textLists oracle note.arguments with
    | [] => m
    | tags => { m with tags := some tags }
  | some "accepts" => { m with requestContentType := text 0 }
  | some "produces" =>
    match status 0 with
    | some s =>
      match note.arguments[1]?.bind Expr.lastName? with
      | some type => m.declare s (some type) ((text 2).getD ContentType.json)
      | none => m.declare s none ((text 1).getD ContentType.json)
    | none => { m with responseContentType := text 0 }
  | some "produces_problem" =>
    match status 0 with
    | some s => m.declare s none ((text 1).getD ContentType.problem)
    | none => m
  | _ => m

def ofAttributes (attributes : List (Attribute Expr)) : Metadata :=
  attributes.foldl (applyAttribute oracle) {}

/-- The settings of an endpoint: its calls, then the attributes of its request type. -/
def ofEndpoint (calls : List Call) (requestType : String) : Metadata :=
  let m := ofCalls oracle calls
  match oracle.lookupType? requestType with
  | some decl => m.orElse (ofAttributes oracle decl.attributes)
  | none => m

end Metadata

end RouteContract
