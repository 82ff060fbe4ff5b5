import RouteContract.Document.Basic
import RouteContract.Endpoint.Basic

/-!
The operation that describes an endpoint.
-/

namespace RouteContract

/-- What a status says in words. -/
def statusDescription (status : Nat) : String :=
  match status with
  | 200 => "Successful response"
  | 201 => "Created"
  | 202 => "Accepted"
  | 204 => "No Content"
  | 400 => "Bad Request"
  | 401 => "Unauthorized"
  | 403 => "Forbidden"
  | 404 => "Not Found"
  | 409 => "Conflict"
  | 422 => "Unprocessable Entity"
  | 429 => "Too Many Requests"
  | 500 => "Internal Server Error"
  | 502 => "Bad Gateway"
  | 503 => "Service Unavailable"
  | other => "Response " ++ toString other

namespace DeclaredResponse

/-- The body: the declared type, or any object for a problem. -/
def content? (r : DeclaredResponse) : Option Content :=
  match r.type with
  | some type => some (.single r.contentType (.ofName type) (Schema.hasDistinctNames_ofName type))
  | none =>
    if r.contentType == ContentType.problem then
      some (.single r.contentType (.ofType "object") (Schema.hasDistinctNames_ofType "object"))
    else none

def toResponse (r : DeclaredResponse) (status : Nat) : Response :=
  .inline (statusDescription status) r.content?

end DeclaredResponse

namespace Operation

/-- The security scheme that every operation asks for unless it is open. -/
def securityScheme : String := "JwtBearer"

/-- The errors that every operation answers, with the shared responses that define them. -/
def sharedErrors : List (Nat × String) :=
  [(400, "BadRequest"), (401, "Unauthorized"), (500, "InternalServerError")]

def success (e : Endpoint) : Response :=
  .inline (statusDescription 200)
    (some (.single e.responseContentType (.ofName e.responseType)
      (Schema.hasDistinctNames_ofName e.responseType)))

/-- The responses of an endpoint: its success, what it declares, and the shared errors that it does
not declare itself. -/
def responsesOf (e : Endpoint) : Table String Response :=
  let declared := e.responses.foldl (fun t (status, r) =>
    Table.insert (toString status) (r.toResponse status) t) [("200", success e)]
  sharedErrors.foldl (fun t (status, name) =>
    if (e.responses.lookup status).isSome then t
    else Table.insert (toString status) (.reference ("#/components/responses/" ++ name)) t) declared

theorem sorted_responsesOf (e : Endpoint) : (responsesOf e).Sorted := by
  unfold responsesOf
  apply Table.Sorted.foldl
  · intro t entry h
    dsimp only
    split
    · exact h
    · exact h.insert _ _
  · exact Table.Sorted.foldl (fun _ _ h => h.insert _ _) _ (by simp)

/-- The schema of a form with given fields; without fields it is only described. -/
def formSchema (typeName : String) : Option (List FieldRecord) → Schema
  | some (f :: fs) => .ofForm (f :: fs)
  | _ => { Schema.ofType "object" with description := some (typeName ++ " form fields") }

theorem hasDistinctNames_formSchema (typeName : String) (fields : Option (List FieldRecord)) :
    (formSchema typeName fields).hasDistinctNames := by
  unfold formSchema
  split
  · exact Schema.hasDistinctNames_ofForm _
  · exact Schema.hasDistinctNames_of_flat rfl rfl

/-- The schema of a request body. A form is described in place, by the fields of its type. -/
def bodySchema (fields : Option (List FieldRecord)) (e : Endpoint) : Schema :=
  if e.requestContentType == ContentType.form then formSchema e.requestType fields
  else .ofName e.requestType

theorem hasDistinctNames_bodySchema (fields : Option (List FieldRecord)) (e : Endpoint) :
    (bodySchema fields e).hasDistinctNames := by
  unfold bodySchema
  split
  · exact hasDistinctNames_formSchema _ _
  · exact Schema.hasDistinctNames_ofName _

/-- The body of a request, for the verbs that have one. -/
def requestBodyOf (fields : Option (List FieldRecord)) (e : Endpoint) : Option RequestBody :=
  if e.verb.hasBody then
    some {
      required := true
      content := .single e.requestContentType (bodySchema fields e)
        (hasDistinctNames_bodySchema fields e) }
  else none

/-- The parameter that a placeholder of a path gives. -/
def pathParameter (name : String) : Parameter where
  name
  location := "path"
  required := true
  schema := .ofType "string"
  distinct := Schema.hasDistinctNames_ofType "string"

/-- The operation of an endpoint whose request type has the given fields. -/
def ofEndpoint (fields : Option (List FieldRecord)) (e : Endpoint) : Operation where
  operationId := e.effectiveId
  summary := e.effectiveSummary
  description := e.description
  tags := e.effectiveTags
  security :=
    if e.requiresAuth then
      [{ scopes := [(securityScheme, [])], sorted := Table.sorted_singleton _ }]
    else []
  parameters := e.pathParameters.map pathParameter
  requestBody := requestBodyOf fields e
  responses := responsesOf e
  sorted := sorted_responsesOf e

end Operation

end RouteContract
