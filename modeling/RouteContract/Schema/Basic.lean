import RouteContract.Json.Slots
import RouteContract.Schema.Field

/-!
Schema objects, the schemas that descriptors and fields have, and their JSON form.
-/

namespace RouteContract

structure Schema where
  reference : Option String := none
  type : Option String := none
  format : Option String := none
  members : Option (List String) := none
  items : Option Schema := none
  /-- Properties in the order in which they are declared, each name once. -/
  properties : Option (List (String × Schema)) := none
  required : Option (List String) := none
  description : Option String := none
  deriving Inhabited

namespace Schema

def ofType (type : String) : Schema := { type := some type }

/-- A reference to a schema of the document. -/
def ofName (name : String) : Schema := { reference := some ("#/components/schemas/" ++ name) }

def ofDescriptor : Descriptor → Schema
  | .primitive kind format => { ofType kind.name with format }
  | .choice members => { ofType "string" with members := some members }
  | .array items => { ofType "array" with items := some (ofDescriptor items) }
  | .object => ofType "object"
  | .reference name => ofName name

/-- The schema of a field. A reference has no description of its own. -/
def ofField (f : FieldRecord) : Schema :=
  let schema := ofDescriptor f.descriptor
  if schema.reference.isNone then { schema with description := f.description } else schema

/-- The names of the fields that must be present, if there are any. -/
def requiredNames? (fields : List FieldRecord) : Option (List String) :=
  match (fields.filter (·.required)).map (·.wireName) with
  | [] => none
  | names => some names

/-- An object with a property for each field; of fields with one name the last gives the schema. -/
def objectWith (schemaOf : FieldRecord → Schema) (fields : List FieldRecord) : Schema :=
  { ofType "object" with
    properties := some (Json.setMembers [] (fields.map fun f => (f.wireName, schemaOf f)))
    required := requiredNames? fields }

/-- The schema of a record. -/
def ofFields (fields : List FieldRecord) : Schema := objectWith ofField fields

/-- The schema of a record as a form: fields travel as text. -/
def ofForm (fields : List FieldRecord) : Schema := objectWith (fun _ => ofType "string") fields

mutual

def toJson : Schema → Json
  | ⟨reference, type, format, members, items, properties, required, description⟩ =>
    .obj (Json.optionalMember "$ref" .str reference ++ Json.optionalMember "type" .str type ++
      Json.optionalMember "format" .str format ++ Json.optionalMember "enum" Json.texts members ++
      itemsMember items ++ propertiesMember properties ++
      Json.optionalMember "required" Json.texts required ++
      Json.optionalMember "description" .str description)

def itemsMember : Option Schema → List (String × Json)
  | none => []
  | some s => [("items", s.toJson)]

def propertiesMember : Option (List (String × Schema)) → List (String × Json)
  | none => []
  | some ps => [("properties", .obj (propertyMembers ps))]

def propertyMembers : List (String × Schema) → List (String × Json)
  | [] => []
  | (name, s) :: rest => (name, s.toJson) :: propertyMembers rest

end

def memberNames : List String :=
  ["$ref", "type", "format", "enum", "items", "properties", "required", "description"]

end Schema

end RouteContract
