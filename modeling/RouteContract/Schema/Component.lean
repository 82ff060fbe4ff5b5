import RouteContract.Schema.Basic

/-!
Component schemas: the named types of a document, with the fields that the sources give them.
-/

namespace RouteContract

/-- Why a type appears among the components. -/
inductive Role where
  | request
  | response
  | shared
  deriving DecidableEq, Repr, Inhabited

def Role.name : Role → String
  | request => "Request"
  | response => "Response"
  | shared => "Shared"

/-- A named type of a document. -/
structure Component where
  role : Role
  /-- The fields of the type; none if it is no record of the sources. -/
  fields : Option (List FieldRecord)
  deriving DecidableEq, Repr, Inhabited

namespace Component

def isResolved (c : Component) : Bool := c.fields.isSome

/-- The types that the fields refer to, in order. -/
def references (c : Component) : List String :=
  (c.fields.getD []).filterMap (·.descriptor.referenceName?)

/-- The schema of a type; one without fields says what it is used for. -/
def schema (c : Component) : Schema :=
  match c.fields with
  | some (f :: fs) => .ofFields (f :: fs)
  | _ =>
    { Schema.ofType "object" with
      description := some (c.role.name ++ " type - properties to be documented") }

end Component

end RouteContract
