import RouteContract.Proofs.Document.Operations
import RouteContract.Proofs.Document.Responses
import RouteContract.Proofs.Schema.Closure
import RouteContract.Proofs.Schema.References

/-!
The references that occur in the document of endpoints. An operation refers to the payload types of
its endpoint, to the types of its declared responses and to shared responses; a component refers to
what its fields refer to. All of these are settled by the assembly, so a reference to a schema that
the document lacks names no record of the sources.
-/

namespace RouteContract

open Source (Index)

variable {target : String}

theorem Content.toJson_refersTo {c : Content} :
    (Content.toJson c).RefersTo target ↔ ∃ entry ∈ c.entries, entry.2.toJson.RefersTo target := by
  rw [Content.toJson, Json.refersTo_ofTable (by simp [mediaToJson])]
  simp [mediaToJson]

theorem Response.toJson_ne_str (r : Response) (text : String) : r.toJson ≠ .str text := by
  cases r <;> simp [toJson]

theorem Response.reference_refersTo {other : String} :
    (Response.reference other).toJson.RefersTo target ↔ target = other := by
  simp [Response.toJson, eq_comm]

theorem Response.inline_refersTo {description : String} {content : Option Content} :
    (Response.inline description content).toJson.RefersTo target ↔
      ∃ c, content = some c ∧ ∃ entry ∈ c.entries, entry.2.toJson.RefersTo target := by
  simp [Response.toJson, Content.toJson_refersTo]

namespace Operation

theorem toJson_refersTo {o : Operation} :
    o.toJson.RefersTo target ↔
      (∃ p ∈ o.parameters, p.schema.toJson.RefersTo target) ∨
      (∃ body, o.requestBody = some body ∧
        ∃ entry ∈ body.content.entries, entry.2.toJson.RefersTo target) ∨
      ∃ entry ∈ o.responses, entry.2.toJson.RefersTo target := by
  have hsecurity (requirement : SecurityRequirement) :
      ¬ requirement.toJson.RefersTo target := by
    rw [SecurityRequirement.toJson, Json.refersTo_ofTable (by simp [Json.texts])]
    simp
  have hparameters : Json.MembersReferTo (if o.parameters.isEmpty then []
      else Json.member "parameters" (.arr (o.parameters.map Parameter.toJson))) target ↔
      ∃ p ∈ o.parameters, p.schema.toJson.RefersTo target := by
    cases o.parameters <;> simp [Parameter.toJson]
  have hresponses : (Json.ofTable Response.toJson o.responses).RefersTo target ↔
      ∃ entry ∈ o.responses, entry.2.toJson.RefersTo target :=
    Json.refersTo_ofTable Response.toJson_ne_str
  rw [toJson, Json.refersTo_obj]
  simp only [Json.membersReferTo_append, hparameters]
  simp [hsecurity, hresponses, RequestBody.toJson, Content.toJson_refersTo, or_assoc]

/-- A form is described in place, any other body refers to the request type. -/
theorem requestBodyOf_refersTo {fields : Option (List FieldRecord)} {e : Endpoint}
    {body : RequestBody} {entry : String × Schema} (hbody : requestBodyOf fields e = some body)
    (hentry : entry ∈ body.content.entries) (h : entry.2.toJson.RefersTo target) :
    target = "#/components/schemas/" ++ e.requestType := by
  unfold requestBodyOf at hbody
  split at hbody
  · cases hbody
    obtain rfl := List.mem_singleton.mp hentry
    dsimp only at h
    unfold bodySchema at h
    split at h
    · unfold formSchema at h
      split at h
      · exact absurd h Schema.not_ofForm_refersTo
      · exact absurd h (Schema.not_refersTo_of_flat rfl rfl rfl)
    · exact Schema.ofName_refersTo.mp h
  · cases hbody

theorem declaredResponses_refersTo {e : Endpoint} {entry : String × Response}
    (hentry : entry ∈ declaredResponses e) (h : entry.2.toJson.RefersTo target) :
    ∃ name ∈ Assembly.declaredTypes e, target = "#/components/schemas/" ++ name := by
  obtain ⟨⟨status, r⟩, hmem, rfl⟩ := List.mem_map.mp hentry
  obtain ⟨content, hcontent, media, hmedia, hschema⟩ := Response.inline_refersTo.mp h
  unfold DeclaredResponse.content? at hcontent
  split at hcontent
  · next name hname =>
    cases hcontent
    obtain rfl := List.mem_singleton.mp hmedia
    exact ⟨name, List.mem_filterMap.mpr ⟨_, hmem, hname⟩, Schema.ofName_refersTo.mp hschema⟩
  · split at hcontent
    · cases hcontent
      obtain rfl := List.mem_singleton.mp hmedia
      exact absurd hschema Schema.not_ofType_refersTo
    · cases hcontent

/-- What the operation of an endpoint refers to. -/
theorem ofEndpoint_refersTo {fields : Option (List FieldRecord)} {e : Endpoint}
    (h : (ofEndpoint fields e).toJson.RefersTo target) :
    (∃ name ∈ e.requestType :: e.responseType :: Assembly.declaredTypes e,
      target = "#/components/schemas/" ++ name) ∨
    ∃ entry ∈ sharedErrors, target = "#/components/responses/" ++ entry.2 := by
  rcases toJson_refersTo.mp h with
    ⟨p, hp, hschema⟩ | ⟨body, hbody, entry, hentry, hschema⟩ | ⟨entry, hentry, hresponse⟩
  · obtain ⟨name, -, rfl⟩ := List.mem_map.mp hp
    exact absurd hschema Schema.not_ofType_refersTo
  · exact Or.inl ⟨_, by simp, requestBodyOf_refersTo hbody hentry hschema⟩
  · rcases mem_responsesOf hentry with hdeclared | hshared | rfl
    · obtain ⟨name, hname, heq⟩ := declaredResponses_refersTo hdeclared hresponse
      exact Or.inl ⟨name, by simp [hname], heq⟩
    · obtain ⟨shared, hmem, rfl⟩ := List.mem_map.mp hshared
      exact Or.inr ⟨shared, hmem, Response.reference_refersTo.mp hresponse⟩
    · obtain ⟨content, hcontent, media, hmedia, hschema⟩ := Response.inline_refersTo.mp hresponse
      cases hcontent
      obtain rfl := List.mem_singleton.mp hmedia
      exact Or.inl ⟨_, by simp, Schema.ofName_refersTo.mp hschema⟩

end Operation

namespace Document

theorem toJson_refersTo {d : Document} :
    d.toJson.RefersTo target ↔
      (∃ entry ∈ d.paths, ∃ operation ∈ entry.2.operations, operation.2.toJson.RefersTo target) ∨
      ∃ entry ∈ d.schemas, entry.2.toJson.RefersTo target := by
  have hitem (item : PathItem) : item.toJson.RefersTo target ↔
      ∃ operation ∈ item.operations, operation.2.toJson.RefersTo target :=
    Json.refersTo_ofTable (by simp [Operation.toJson])
  have hpaths : (Json.ofTable PathItem.toJson d.paths).RefersTo target ↔
      ∃ entry ∈ d.paths, entry.2.toJson.RefersTo target :=
    Json.refersTo_ofTable (by simp [PathItem.toJson, Json.ofTable])
  have hschemas : (Json.ofTable Schema.toJson d.schemas).RefersTo target ↔
      ∃ entry ∈ d.schemas, entry.2.toJson.RefersTo target :=
    Json.refersTo_ofTable Schema.toJson_ne_str
  rw [toJson, Json.refersTo_obj]
  simp only [Json.membersReferTo_append, Json.membersReferTo_member, hpaths, hitem]
  simp [Info.toJson, componentsToJson, hschemas]

theorem schemas_reference_ne_responses (name other : String) :
    "#/components/schemas/" ++ name ≠ "#/components/responses/" ++ other := by
  intro h
  have hchars := congrArg String.toList h
  simp at hchars

/-- Every schema that the document of a closed assembly refers to is settled. -/
theorem settled_of_refersTo {index : Index} {info : Info} {a : Assembly} {es : List Endpoint}
    {name : String} (hclosed : a.Closed index es)
    (h : (build info a es).toJson.RefersTo ("#/components/schemas/" ++ name)) :
    a.Settled index name := by
  have hsame {other : String}
      (heq : "#/components/schemas/" ++ name = "#/components/schemas/" ++ other) :
      name = other := by
    simpa using heq
  rcases toJson_refersTo.mp h with
    ⟨⟨path, item⟩, hitem, ⟨verb, operation⟩, hoperation, href⟩ | ⟨entry, hentry, href⟩
  · obtain ⟨e, he, rfl⟩ := exists_endpoint_of_operation hitem hoperation
    rcases Operation.ofEndpoint_refersTo href with ⟨other, hother, heq⟩ | ⟨shared, -, heq⟩
    · rw [hsame heq]
      rcases List.mem_cons.mp hother with rfl | hother
      · exact Or.inl (hclosed.payloads e he).1
      · rcases List.mem_cons.mp hother with rfl | hdeclared
        · exact Or.inl (hclosed.payloads e he).2
        · exact hclosed.declared e he other hdeclared
    · exact absurd heq (schemas_reference_ne_responses name shared.2)
  · obtain ⟨component, hcomponent, rfl⟩ := List.mem_map.mp hentry
    obtain ⟨other, hother, heq⟩ := Component.schema_refersTo href
    rw [hsame heq]
    exact hclosed.nested component hcomponent other hother

end Document

namespace Generated

theorem exists_breakdown {index : Index} {a : Assembly} {b : Source.Breakdown}
    (h : a.breakdown? index = some b) : ∃ name ∈ a.consulted, index.fieldsOf name = .error b := by
  obtain ⟨name, hmem, hname⟩ := List.exists_of_findSome?_eq_some h
  cases hresult : index.fieldsOf name with
  | error e =>
      rw [hresult] at hname
      cases hname
      exact ⟨name, hmem, hresult⟩
  | ok fields =>
      rw [hresult] at hname
      cases hname

/-- Endpoints are not described since the fields of a type that they need cannot be followed. -/
def BreaksDown (index : Index) (info : Info) (es : List Endpoint) : Prop :=
  ∃ name ∈ (Assembly.ofEndpoints index es).consulted, ∃ b,
    index.fieldsOf name = .error b ∧ ofEndpoints index info es = .error b

theorem breaksDown_of_breakdown? {index : Index} {es : List Endpoint} {b : Source.Breakdown}
    (info : Info) (h : (Assembly.ofEndpoints index es).breakdown? index = some b) :
    BreaksDown index info es := by
  obtain ⟨name, hmem, hname⟩ := exists_breakdown h
  refine ⟨name, hmem, b, hname, ?_⟩
  simp only [ofEndpoints, h]

/-- Either the fields of some type cannot be followed, or the endpoints have a document. -/
theorem ofEndpoints_cases (index : Index) (info : Info) (es : List Endpoint) :
    BreaksDown index info es ∨
    ∃ g, ofEndpoints index info es = .ok g ∧ g.document = Document.ofEndpoints index info es := by
  cases hbreakdown : (Assembly.ofEndpoints index es).breakdown? index with
  | some b => exact Or.inl (breaksDown_of_breakdown? info hbreakdown)
  | none =>
      right
      simp only [ofEndpoints, hbreakdown]
      exact ⟨_, rfl, rfl⟩

theorem document_of_eq_ok {index : Index} {info : Info} {es : List Endpoint} {g : Generated}
    (h : ofEndpoints index info es = .ok g) :
    g.document = Document.ofEndpoints index info es := by
  rcases ofEndpoints_cases index info es with ⟨-, -, b, -, hb⟩ | ⟨g', hg', hdocument⟩
  · rw [hb] at h
    cases h
  · rw [hg'] at h
    cases h
    exact hdocument

theorem fieldsOf_of_consulted {index : Index} {a : Assembly} {name : String}
    (hbreakdown : a.breakdown? index = none) (hname : name ∈ a.consulted)
    (hfields : index.fields? name = none) : index.fieldsOf name = .ok none := by
  have hfollowed := List.findSome?_eq_none_iff.mp hbreakdown name hname
  unfold Index.fields? at hfields
  cases hresult : index.fieldsOf name with
  | error b => simp [hresult] at hfollowed
  | ok fields =>
      rw [hresult] at hfields
      rw [show fields = none from hfields]

/-- Endpoints are described unless the fields of a type that they need cannot be followed. Wherever
the document then refers to a schema, in an operation or inside a component, it has a component of
that name, or the name is no record of the sources. -/
theorem references_closed (index : Index) (info : Info) (es : List Endpoint) :
    BreaksDown index info es ∨
    ∃ g, ofEndpoints index info es = .ok g ∧
      ∀ name, g.document.toJson.RefersTo ("#/components/schemas/" ++ name) →
        (g.document.schemas.lookup name).isSome ∨ index.fieldsOf name = .ok none := by
  cases hbreakdown : (Assembly.ofEndpoints index es).breakdown? index with
  | some b => exact Or.inl (breaksDown_of_breakdown? info hbreakdown)
  | none =>
      obtain hbroken | ⟨g, hg, hdocument⟩ := ofEndpoints_cases index info es
      · exact Or.inl hbroken
      refine Or.inr ⟨g, hg, ?_⟩
      rw [hdocument]
      intro name href
      have hclosed := Assembly.closed_ofEndpoints index es
      rcases Document.settled_of_refersTo hclosed href with hcomponent | ⟨hconsulted, hfields⟩
      · refine Or.inl ?_
        have hschema := Table.lookup_map_snd Component.schema
          (Assembly.ofEndpoints index es).components name
        exact (congrArg Option.isSome hschema).trans (Option.isSome_map.trans hcomponent)
      · exact Or.inr (fieldsOf_of_consulted hbreakdown hconsulted hfields)

end Generated

end RouteContract
