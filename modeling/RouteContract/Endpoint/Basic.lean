import RouteContract.Endpoint.Template
import RouteContract.Endpoint.Verb
import RouteContract.Files.Path
import RouteContract.Table
import RouteContract.Text.Casing

/-!
Endpoints: everything known about one registration, and what is derived from it where the service
does not say it.
-/

namespace RouteContract

namespace ContentType

def json : String := "application/json"
def problem : String := "application/problem+json"
def form : String := "application/x-www-form-urlencoded"

end ContentType

/-- A response that an endpoint declares besides its success. -/
structure DeclaredResponse where
  /-- The type of the body, if there is one. -/
  type : Option String
  contentType : String
  deriving DecidableEq, Repr, Inhabited

structure Endpoint where
  verb : Verb
  /-- The path template, such as `/v1/items/{id}`. -/
  path : String
  requestType : String
  responseType : String
  requiresAuth : Bool := true
  requestContentType : String := ContentType.json
  responseContentType : String := ContentType.json
  operationId : Option String := none
  summary : Option String := none
  description : Option String := none
  /-- Tags that take the place of the one derived from the path. -/
  tags : Option (List String) := none
  /-- Declared responses by status. -/
  responses : Table Nat DeclaredResponse := []
  sorted : responses.Sorted := by first | exact Table.sorted_nil | exact Table.sorted_ofList _
  /-- The file of the registration. -/
  file : String := ""
  line : Nat := 0
  deriving DecidableEq, Repr, Inhabited

namespace Endpoint

/-- A text that is given and not blank. -/
def given? (text : Option String) : Option String :=
  text.filter fun s => !Text.isBlankText s

/-- How a segment of the path appears in a derived operation id. -/
def segmentWord (segment : String) : String :=
  match Template.placeholder? segment with
  | some param => "By" ++ Text.capitalize param
  | none => Text.capitalize segment

/-- The operation id derived from verb and path: `GET /v1/items/{id}` is `getV1ItemsById`. -/
def derivedId (e : Endpoint) : String :=
  e.verb.key ++ String.join (((Template.segments e.path).filter (!·.isEmpty)).map segmentWord)

def effectiveId (e : Endpoint) : String :=
  (given? e.operationId).getD e.derivedId

/-- The summary derived from the verb and the name of the response type. -/
def derivedSummary (e : Endpoint) : String :=
  let resource := Text.without "Command" (Text.without "Response" e.responseType)
  Text.trim (e.verb.action ++ " " ++ resource)

def effectiveSummary (e : Endpoint) : String :=
  (given? e.summary).getD e.derivedSummary

/-- The first segment of the path that is not a placeholder. -/
def derivedTag (e : Endpoint) : String :=
  let names := (Template.segments e.path).filter fun s =>
    !s.isEmpty && s.toList.head?.all (·.toNat != 0x7b)
  (names.head?.map Text.capitalize).getD "Default"

def effectiveTags (e : Endpoint) : List String :=
  match e.tags with
  | some (t :: ts) => t :: ts
  | _ => [e.derivedTag]

def pathParameters (e : Endpoint) : List String := Template.parameters e.path

/-- The file and line of the registration, from a project's root on. -/
def location (e : Endpoint) (root : String) : String :=
  (Files.below? root e.file).getD e.file ++ ":" ++ toString e.line

end Endpoint

end RouteContract
