import RouteContract.Document.Codec
import RouteContract.Proofs.Table

/-!
The members of a document's JSON form, looked up by name.
-/

namespace RouteContract

namespace Json

variable {α : Type}

@[simp] theorem lookup_member (name key : String) (j : Json) :
    (member name j).lookup key = if key = name then some j else none := by
  rw [member, Table.lookup_cons, List.lookup_nil]

@[simp] theorem lookup_optionalMember (name key : String) (encode : α → Json) (value : Option α) :
    (optionalMember name encode value).lookup key =
      if key = name then value.map encode else none := by
  cases value with
  | none => simp [optionalMember]
  | some v => rw [optionalMember, Table.lookup_cons, List.lookup_nil, Option.map_some]

theorem get?_obj (members : List (String × Json)) (name : String) :
    (obj members).get? name = members.lookup name := rfl

theorem get?_ofTable (encode : α → Json) (t : List (String × α)) (name : String) :
    (ofTable encode t).get? name = (t.lookup name).map encode :=
  Table.lookup_map_snd encode t name

end Json

namespace Operation

variable (o : Operation)

theorem get?_security :
    o.toJson.get? "security" = some (.arr (o.security.map SecurityRequirement.toJson)) := by
  simp [toJson, Json.get?_obj, List.lookup_append]

theorem get?_requestBody :
    o.toJson.get? "requestBody" = o.requestBody.map RequestBody.toJson := by
  cases h : o.parameters.isEmpty <;>
    simp [toJson, Json.get?_obj, List.lookup_append, h]

theorem get?_responses :
    o.toJson.get? "responses" = some (Json.ofTable Response.toJson o.responses) := by
  cases h : o.parameters.isEmpty <;>
    simp [toJson, Json.get?_obj, List.lookup_append, h]

end Operation

namespace Document

variable (d : Document)

theorem get?_version : d.toJson.get? "openapi" = some (.str d.version) := by
  simp [toJson, Json.get?_obj, List.lookup_append]

theorem get?_paths :
    d.toJson.get? "paths" = some (Json.ofTable PathItem.toJson d.paths) := by
  simp [toJson, Json.get?_obj, List.lookup_append]

end Document

end RouteContract
