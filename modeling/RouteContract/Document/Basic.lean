import RouteContract.Schema.Distinct
import RouteContract.Table

/-!
Fragment documents: what one service contributes to a contract. Every table in a document is in the
order of its keys.
-/

namespace RouteContract

/-- What a document says about itself. -/
structure Info where
  title : String
  version : String
  description : Option String := none
  deriving DecidableEq, Repr, Inhabited

/-- Schemas by name. -/
@[ext]
structure SchemaTable where
  entries : Table String Schema := []
  sorted : entries.Sorted := by exact Table.sorted_nil
  distinct : ∀ entry ∈ entries, entry.2.hasDistinctNames := by exact List.forall_mem_nil _
  deriving Inhabited

/-- The table of one schema. -/
def SchemaTable.single (name : String) (schema : Schema)
    (distinct : schema.hasDistinctNames) : SchemaTable where
  entries := [(name, schema)]
  sorted := Table.sorted_singleton _
  distinct := List.forall_mem_singleton.mpr distinct

/-- The table of some schemas; of schemas with one name the last counts. -/
def SchemaTable.ofList (schemas : List (String × DistinctSchema)) : SchemaTable where
  entries := (Table.ofList schemas).map fun entry => (entry.1, entry.2.val)
  sorted := Table.sorted_map.mpr (Table.sorted_ofList schemas)
  distinct := List.forall_mem_map.mpr fun entry _ => entry.2.property

/-- A schema for every media type of a body. -/
abbrev Content := SchemaTable

structure Parameter where
  name : String
  /-- Where the parameter is passed, such as `path`. -/
  location : String
  required : Bool
  schema : Schema
  distinct : schema.hasDistinctNames

structure RequestBody where
  required : Bool
  content : Content
  deriving Inhabited

inductive Response where
  /-- A response that shared fragments define. -/
  | reference (target : String)
  | inline (description : String) (content : Option Content)
  deriving Inhabited

structure SecurityRequirement where
  /-- Scopes by the name of the security scheme. -/
  scopes : Table String (List String) := []
  sorted : scopes.Sorted := by exact Table.sorted_nil
  deriving Inhabited

structure Operation where
  operationId : String
  summary : String
  description : Option String := none
  tags : List String
  /-- One of these requirements must be met; without any the operation is open. -/
  security : List SecurityRequirement
  parameters : List Parameter := []
  requestBody : Option RequestBody := none
  /-- Responses by status. -/
  responses : Table String Response
  sorted : responses.Sorted

@[ext]
structure PathItem where
  /-- Operations by their verbs in lower case. -/
  operations : Table String Operation := []
  sorted : operations.Sorted := by exact Table.sorted_nil
  deriving Inhabited

@[ext]
structure Document where
  /-- The version of the format. -/
  version : String
  info : Info
  paths : Table String PathItem
  components : SchemaTable
  sorted : paths.Sorted

/-- The schemas of a document by their names. -/
def Document.schemas (d : Document) : Table String Schema := d.components.entries

end RouteContract
