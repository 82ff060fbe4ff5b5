import RouteContract.Document.Basic
import RouteContract.Json.Reader
import RouteContract.Json.Slots

/-!
Documents as JSON values, written and read. Members that are not set are not written; members that
are not known are not read, and in text they are skipped, except inside a response: that is read as
a whole before it is told whether it is a reference.
-/

namespace RouteContract

open Json (member optionalMember)
open Json.Slot (required? optional? defaulted?)

namespace Info

def toJson (i : Info) : Json :=
  .obj (member "title" (.str i.title) ++ member "version" (.str i.version) ++
    optionalMember "description" .str i.description)

def ofJson? (j : Json) : Option Info := do
  let [title, version, description] ← Json.slots? ["title", "version", "description"] j | none
  return {
    title := ← required? Json.asText? title
    version := ← required? Json.asText? version
    description := ← optional? Json.asText? description }

end Info

namespace Content

/-- A media type, of which only the schema is known. -/
def mediaToJson (s : Schema) : Json := .obj (member "schema" s.toJson)

def mediaOfJson? (j : Json) : Option DistinctSchema := do
  let [schema] ← Json.slots? ["schema"] j | none
  required? DistinctSchema.ofJson? schema

def toJson (c : Content) : Json := Json.ofTable mediaToJson c.entries

def ofJson? (j : Json) : Option Content := (Json.entries? mediaOfJson? j).map SchemaTable.ofList

end Content

namespace Parameter

def toJson (p : Parameter) : Json :=
  .obj (member "name" (.str p.name) ++ member "in" (.str p.location) ++
    member "required" (.bool p.required) ++ member "schema" p.schema.toJson)

def ofJson? (j : Json) : Option Parameter := do
  let [name, location, required, schema] ←
    Json.slots? ["name", "in", "required", "schema"] j | none
  let ⟨schema, distinct⟩ ← required? DistinctSchema.ofJson? schema
  return {
    name := ← required? Json.asText? name
    location := ← required? Json.asText? location
    required := ← required? Json.asBool? required
    schema, distinct }

end Parameter

namespace RequestBody

def toJson (b : RequestBody) : Json :=
  .obj (member "required" (.bool b.required) ++ member "content" (Content.toJson b.content))

def ofJson? (j : Json) : Option RequestBody := do
  let [required, content] ← Json.slots? ["required", "content"] j | none
  return {
    required := ← required? Json.asBool? required
    content := ← required? Content.ofJson? content }

end RequestBody

namespace Response

def toJson : Response → Json
  | reference target => .obj (member "$ref" (.str target))
  | inline description content =>
    .obj (member "description" (.str description) ++
      optionalMember "content" Content.toJson content)

/-- An object with a reference. Other members do not matter. -/
def referenceOfJson? : Json → Option Response
  | .obj members => do
    let [target] ← Json.slots? ["$ref"] (.obj members) | none
    return reference (← required? Json.asText? target)
  | _ => none

def inlineOfJson? (j : Json) : Option Response := do
  let [description, content] ← Json.slots? ["description", "content"] j | none
  return inline (← required? Json.asText? description) (← optional? Content.ofJson? content)

/-- What has a reference is one, whatever else it has. -/
def ofJson? (j : Json) : Option Response :=
  referenceOfJson? j <|> inlineOfJson? j

end Response

namespace SecurityRequirement

def toJson (r : SecurityRequirement) : Json := Json.ofTable Json.texts r.scopes

def ofJson? (j : Json) : Option SecurityRequirement :=
  (Json.entries? (Json.list? Json.asText?) j).map fun scopes =>
    { scopes := Table.ofList scopes, sorted := Table.sorted_ofList scopes }

end SecurityRequirement

namespace Operation

def toJson (o : Operation) : Json :=
  .obj (member "operationId" (.str o.operationId) ++ member "summary" (.str o.summary) ++
    optionalMember "description" .str o.description ++ member "tags" (Json.texts o.tags) ++
    member "security" (.arr (o.security.map SecurityRequirement.toJson)) ++
    (if o.parameters.isEmpty then []
      else member "parameters" (.arr (o.parameters.map Parameter.toJson))) ++
    optionalMember "requestBody" RequestBody.toJson o.requestBody ++
    member "responses" (Json.ofTable Response.toJson o.responses))

def memberNames : List String :=
  ["operationId", "summary", "description", "tags", "security", "parameters", "requestBody",
    "responses"]

def ofJson? (j : Json) : Option Operation := do
  let [operationId, summary, description, tags, security, parameters, requestBody, responses] ←
    Json.slots? memberNames j | none
  return {
    operationId := ← required? Json.asText? operationId
    summary := ← required? Json.asText? summary
    description := ← optional? Json.asText? description
    tags := ← required? (Json.list? Json.asText?) tags
    security := ← required? (Json.list? SecurityRequirement.ofJson?) security
    parameters := ← defaulted? [] (Json.list? Parameter.ofJson?) parameters
    requestBody := ← optional? RequestBody.ofJson? requestBody
    responses := Table.ofList (← required? (Json.entries? Response.ofJson?) responses)
    sorted := Table.sorted_ofList _ }

end Operation

namespace PathItem

def toJson (item : PathItem) : Json := Json.ofTable Operation.toJson item.operations

def ofJson? (j : Json) : Option PathItem :=
  (Json.entries? Operation.ofJson? j).map fun operations =>
    { operations := Table.ofList operations, sorted := Table.sorted_ofList operations }

end PathItem

namespace Document

/-- The components of a document, which are schemas only. -/
def componentsToJson (schemas : Table String Schema) : Json :=
  .obj (member "schemas" (Json.ofTable Schema.toJson schemas))

def componentsOfJson? (j : Json) : Option SchemaTable := do
  let [schemas] ← Json.slots? ["schemas"] j | none
  return .ofList (← required? (Json.entries? DistinctSchema.ofJson?) schemas)

def toJson (d : Document) : Json :=
  .obj (member "openapi" (.str d.version) ++ member "info" d.info.toJson ++
    member "paths" (Json.ofTable PathItem.toJson d.paths) ++
    member "components" (componentsToJson d.schemas))

def ofJson? (j : Json) : Option Document := do
  let [version, info, paths, components] ←
    Json.slots? ["openapi", "info", "paths", "components"] j | none
  return {
    version := ← required? Json.asText? version
    info := ← required? Info.ofJson? info
    paths := Table.ofList (← required? (Json.entries? PathItem.ofJson?) paths)
    sorted := Table.sorted_ofList _
    components := ← required? componentsOfJson? components }

/-- What stands at a place of a document. -/
inductive Part where
  | document
  | info
  | paths
  | pathItem
  | operation
  | parameters
  | parameter
  | requestBody
  | content
  | media
  | responses
  | components
  | schemas
  | schema
  | properties
  /-- A place of which everything is read. -/
  | whole
  deriving DecidableEq, Repr

namespace Part

/-- The members of a record in order, each with what stands there. -/
def members : Part → List (String × Part)
  | document =>
    [("openapi", whole), ("info", info), ("paths", paths), ("components", components)]
  | info => [("title", whole), ("version", whole), ("description", whole)]
  | operation => Operation.memberNames.map fun name =>
    (name, match name with
      | "parameters" => parameters
      | "requestBody" => requestBody
      | "responses" => responses
      | _ => whole)
  | parameter => [("name", whole), ("in", whole), ("required", whole), ("schema", schema)]
  | requestBody => [("required", whole), ("content", content)]
  | media => [("schema", schema)]
  | components => [("schemas", schemas)]
  | schema => Schema.memberNames.map fun name =>
    (name, match name with
      | "items" => schema
      | "properties" => properties
      | _ => whole)
  | _ => []

/-- What each member of a table is, or each item of a list. -/
def each? : Part → Option Part
  | paths => some pathItem
  | pathItem => some operation
  | parameters => some parameter
  | content => some media
  | responses => some whole
  | schemas => some schema
  | properties => some schema
  | whole => some whole
  | _ => none

/-- The outline of a document. A record may be written as an array of its members; an array that is
too long is read as far as it goes. -/
def outline : Outline Part where
  member part name := part.each? <|> part.members.lookup name
  item part position :=
    some ((part.each? <|> (part.members[position]?).map (·.2)).getD whole)

end Part

/-- Reads a document from text. -/
def parse? (text : String) : Option Document :=
  (Json.parseAlong? Part.outline .document text).bind ofJson?

end Document

end RouteContract
