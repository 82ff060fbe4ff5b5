import RouteContract.Endpoint.Basic
import RouteContract.Schema.Component

/-!
Assembling the component schemas of endpoints. The request and response types of every endpoint are
components, whether the sources declare them or not. Types of declared responses, and types that the
fields of components refer to, are components only if they are records of the sources; all others
are left to shared fragments.

The search for such types ends since every new component is a declared name that was none before.
-/

namespace RouteContract

namespace Source.Index

/-- Every name under which a type may be found. -/
def declaredNames (index : Index) : List String :=
  index.types.map (·.1) ++ index.renames.map (·.1)

theorem mem_declaredNames_of_lookupType? {index : Index} {name : String}
    (h : (index.lookupType? name).isSome) : name ∈ index.declaredNames := by
  unfold lookupType? at h
  rw [declaredNames, List.mem_append]
  cases own : index.types.lookup name with
  | some _ => exact .inl (Table.mem_keys_of_lookup own)
  | none =>
    cases new : index.renames.lookup name with
    | some _ => exact .inr (Table.mem_keys_of_lookup new)
    | none => simp [own, new] at h

/-- Only a declared name has fields. -/
theorem mem_declaredNames_of_fields? {index : Index} {name : String} {fields : List FieldRecord}
    (h : index.fields? name = some fields) : name ∈ index.declaredNames := by
  apply mem_declaredNames_of_lookupType?
  cases found : index.lookupType? name with
  | some _ => rfl
  | none =>
    rw [fields?, fieldsOf_of_lookupType?_eq_none found] at h
    cases h

end Source.Index

open Source (Index)

/-- The components found so far. -/
structure Assembly where
  components : Table String Component := []
  /-- The names whose fields have been looked up, in order. -/
  consulted : List String := []
  sorted : components.Sorted := by exact Table.sorted_nil
  deriving Inhabited

namespace Assembly

def component? (a : Assembly) (name : String) : Option Component :=
  a.components.lookup name

/-- The fields of a component that is a record of the sources. -/
def fieldsOf? (a : Assembly) (name : String) : Option (List FieldRecord) :=
  (a.component? name).bind (·.fields)

/-- Puts a component beside those that are there. One that is resolved takes the place of one that
is not, and in every other case the first one stays. -/
def put (name : String) (component : Component) (components : Table String Component) :
    Table String Component :=
  match components.lookup name with
  | some first =>
    if first.isResolved || !component.isResolved then components
    else components.insert name component
  | none => components.insert name component

theorem put_of_new {name : String} {components : Table String Component}
    (new : components.lookup name = none) (component : Component) :
    put name component components = components.insert name component := by
  rw [put, new]

theorem sorted_put {components : Table String Component} (h : components.Sorted) (name : String)
    (component : Component) : (put name component components).Sorted := by
  unfold put
  split
  · split
    · exact h
    · exact h.insert _ _
  · exact h.insert _ _

/-- Adds a type under a role, with the fields that the sources give it. -/
def add (index : Index) (a : Assembly) (name : String) (role : Role) : Assembly where
  components := put name ⟨role, index.fields? name⟩ a.components
  consulted := a.consulted ++ [name]
  sorted := sorted_put a.sorted _ _

/-- The declared names that are no components yet. -/
def missing (index : Index) (a : Assembly) : List String :=
  index.declaredNames.filter fun name => (a.component? name).isNone

/-- Adds a shared type with given fields. -/
def addShared (a : Assembly) (name : String) (fields : List FieldRecord) : Assembly where
  components := put name ⟨.shared, some fields⟩ a.components
  consulted := a.consulted ++ [name]
  sorted := sorted_put a.sorted _ _

theorem missing_addShared_lt {index : Index} {a : Assembly} {name : String}
    {fields : List FieldRecord} (new : a.component? name = none)
    (found : index.fields? name = some fields) :
    ((a.addShared name fields).missing index).length < (a.missing index).length := by
  have declared := Source.Index.mem_declaredNames_of_fields? found
  have fewer : (a.addShared name fields).missing index =
      (a.missing index).filter fun other => decide (other ≠ name) := by
    rw [missing, missing, List.filter_filter]
    apply List.filter_congr
    intro other _
    by_cases same : other = name <;>
      simp [component?, addShared, put_of_new new, Table.lookup_insert, same]
  rw [fewer]
  apply List.length_filter_lt_length_iff_exists.mpr
  exact ⟨name, by simp [missing, declared, new], by simp⟩

/-- Adds the records among some names, and then those that their fields refer to. -/
def addReachable (index : Index) (a : Assembly) (names : List String) : Assembly :=
  match names with
  | [] => a
  | name :: rest =>
    match _new : a.component? name with
    | some _ => addReachable index a rest
    | none =>
      match _found : index.fields? name with
      | none => addReachable index { a with consulted := a.consulted ++ [name] } rest
      | some fields =>
        addReachable index (a.addShared name fields)
          (rest ++ fields.filterMap (·.descriptor.referenceName?))
termination_by ((a.missing index).length, names.length)
decreasing_by
  · apply Prod.Lex.right; simp
  · apply Prod.Lex.right; simp
  · exact Prod.Lex.left _ _ (missing_addShared_lt _new _found)

/-- Adds the request and the response type of an endpoint. -/
def addPayloads (index : Index) (a : Assembly) (e : Endpoint) : Assembly :=
  (a.add index e.requestType .request).add index e.responseType .response

/-- The types of the responses that an endpoint declares, by status. -/
def declaredTypes (e : Endpoint) : List String :=
  e.responses.filterMap (·.2.type)

/-- The types that the fields of all components refer to. -/
def references (a : Assembly) : List String :=
  a.components.flatMap (·.2.references)

/-- Adds everything that endpoints need. -/
def addEndpoints (index : Index) (a : Assembly) (es : List Endpoint) : Assembly :=
  let a := es.foldl (addPayloads index) a
  a.addReachable index (es.flatMap declaredTypes ++ a.references)

/-- The assembly of endpoints alone. -/
def ofEndpoints (index : Index) (es : List Endpoint) : Assembly :=
  addEndpoints index {} es

def schemas (a : Assembly) : Table String Schema :=
  a.components.map fun entry => (entry.1, entry.2.schema)

/-- Warnings about the fields that have been looked up. -/
def warnings (index : Index) (a : Assembly) : List String :=
  a.consulted.flatMap index.fieldWarnings

/-- The first reason why a type that has been looked up cannot be followed. -/
def breakdown? (index : Index) (a : Assembly) : Option Source.Breakdown :=
  a.consulted.findSome? fun name =>
    match index.fieldsOf name with
    | .error b => some b
    | .ok _ => none

end Assembly

end RouteContract
