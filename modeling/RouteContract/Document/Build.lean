import RouteContract.Document.Codec
import RouteContract.Document.Operation
import RouteContract.Endpoint.Scan
import RouteContract.Schema.Assembly

/-!
Building the document of a service from its endpoints, or from its sources.
-/

namespace RouteContract

open Source (Index SourceFile Breakdown)

/-- Puts an operation under its verb. -/
def PathItem.insert (item : PathItem) (verb : String) (operation : Operation) : PathItem where
  operations := item.operations.insert verb operation
  sorted := item.sorted.insert verb operation

namespace Document

/-- The version of the format in which documents are built. -/
def formatVersion : String := "3.1.0"

/-- What a document says about itself unless the service says more. -/
def defaultInfo : Info := { title := "Generated API", version := "1.0.0" }

/-- Whether a path has an operation for a verb. -/
def hasOperation (paths : Table String PathItem) (path verb : String) : Bool :=
  (((paths.lookup path).getD {}).operations.lookup verb).isSome

/-- Adds the operation of an endpoint. The first of several with one verb and path stays. -/
def addEndpoint (a : Assembly) (paths : Table String PathItem) (e : Endpoint) :
    Table String PathItem :=
  let item := (paths.lookup e.path).getD {}
  if hasOperation paths e.path e.verb.key then paths
  else
    let operation := Operation.ofEndpoint (a.fieldsOf? e.requestType) e
    paths.insert e.path (item.insert e.verb.key operation)

def pathsOf (a : Assembly) (es : List Endpoint) : Table String PathItem :=
  es.foldl (addEndpoint a) []

theorem sorted_addEndpoint (a : Assembly) (paths : Table String PathItem) (e : Endpoint)
    (h : paths.Sorted) : (addEndpoint a paths e).Sorted := by
  unfold addEndpoint
  dsimp only
  split
  · exact h
  · exact h.insert _ _

theorem sorted_pathsOf (a : Assembly) (es : List Endpoint) : (pathsOf a es).Sorted :=
  Table.Sorted.foldl (sorted_addEndpoint a) es (by simp)

/-- The document of some endpoints with the components that have been assembled. -/
def build (info : Info) (a : Assembly) (es : List Endpoint) : Document where
  version := formatVersion
  info
  paths := pathsOf a es
  components := {
    entries := a.schemas
    sorted := Table.sorted_map.mpr a.sorted
    distinct := List.forall_mem_map.mpr fun entry _ => entry.2.hasDistinctNames_schema }
  sorted := sorted_pathsOf a es

/-- The document of endpoints whose types are found by an index. -/
def ofEndpoints (index : Index) (info : Info) (es : List Endpoint) : Document :=
  build info (Assembly.ofEndpoints index es) es

/-- The endpoints whose verb and path another one has before them. -/
def repeated (seen : List (String × Verb)) : List Endpoint → List Endpoint
  | [] => []
  | e :: es =>
    if seen.contains (e.path, e.verb) then e :: repeated seen es
    else repeated ((e.path, e.verb) :: seen) es

/-- The warning about an endpoint that is not in the document. -/
def repeatWarning (e : Endpoint) : String :=
  "Endpoint " ++ e.verb.name ++ " " ++ e.path ++
    " registered more than once; keeping the first (" ++ e.file ++ ":" ++ toString e.line ++ ")"

end Document

/-- The endpoints of a service and the document that describes them. -/
structure Generated where
  document : Document
  endpoints : List Endpoint
  warnings : List String

namespace Generated

/-- Describes endpoints, if all their types can be followed. -/
def ofEndpoints (index : Index) (info : Info) (es : List Endpoint) : Except Breakdown Generated :=
  let a := Assembly.ofEndpoints index es
  match a.breakdown? index with
  | some b => .error b
  | none => .ok {
      document := Document.build info a es
      endpoints := es
      warnings := a.warnings index ++ (Document.repeated [] es).map Document.repeatWarning }

/-- Describes the endpoints that files register. -/
def ofFiles (index : Index) (info : Info) (files : List SourceFile) :
    Except Breakdown Generated := do
  ofEndpoints index info (← RouteContract.endpoints index files)

end Generated

end RouteContract
