import RouteContract.Lint.Rules
import RouteContract.Proofs.Document.Codec
import RouteContract.Proofs.Document.Responses

/-!
What the recommended rules find in the operation of an endpoint. Its security is open or names an
accepted scheme, it answers every required status, and every content it writes has a schema. What
is left are declared responses that have no content at all.
-/

namespace RouteContract

/-- A response in place without content. -/
def Response.isBodiless : Response → Bool
  | inline _ none => true
  | _ => false

/-- The declared response has no type, and is no problem, which would be any object. -/
def DeclaredResponse.isBodiless (r : DeclaredResponse) : Bool :=
  r.type.isNone && r.contentType != ContentType.problem

theorem DeclaredResponse.isBodiless_toResponse (r : DeclaredResponse) (status : Nat) :
    (r.toResponse status).isBodiless = r.isBodiless := by
  obtain ⟨type, contentType⟩ := r
  cases type with
  | some type => rfl
  | none =>
      by_cases hproblem : contentType = ContentType.problem <;>
        simp [toResponse, content?, isBodiless, Response.isBodiless, hproblem]

namespace Operation

/-- Among the responses of an operation only declared ones can be without content. -/
theorem bodiless_responsesOf (e : Endpoint) :
    ((responsesOf e).filter (·.2.isBodiless)).Perm
      ((declaredResponses e).filter (·.2.isBodiless)) := by
  have hleft : (responsesOf e).Nodup := (sorted_responsesOf e).nodup.of_map
  have hright : (declaredResponses e).Nodup := (nodup_declaredResponses e).of_map
  -- Both sides have distinct entries, so that it suffices to compare them entry by entry.
  refine (List.perm_ext_iff_of_nodup (hleft.filter _) (hright.filter _)).mpr ?_
  intro entry
  rw [List.mem_filter, List.mem_filter]
  refine and_congr_left ?_
  intro hbodiless
  constructor
  · intro hmem
    rcases mem_responsesOf hmem with hdeclared | hshared | rfl
    · exact hdeclared
    · obtain ⟨shared, -, rfl⟩ := List.mem_map.mp hshared
      cases hbodiless
    · cases hbodiless
  · intro hmem
    have hlookup := Table.lookup_of_mem (nodup_declaredResponses e) hmem
    apply Table.mem_of_lookup
    rw [lookup_responsesOf, hlookup, Option.some_or]

end Operation

namespace Lint

variable {method path : String} {place : Place}

/-- Content that is written has a schema for every media type. -/
theorem contentFindings_of_content {container : Json} (c : Content)
    (h : container.get? "content" = some (Content.toJson c)) :
    contentFindings place container = [] := by
  have hmedia (s : Schema) : (Content.mediaToJson s).get? "schema" = some s.toJson := by
    simp [Content.mediaToJson, Json.get?_obj]
  rw [contentFindings, h]
  simp [Content.toJson, Json.ofTable, Json.asObject?, List.filter_map, Function.comp_def, hmedia]

/-- Of a response that is written only one in place and without content is objected to. -/
theorem responseFindings_toJson (status : String) (r : Response) :
    responseFindings method path (status, r.toJson) =
      if r.isBodiless then [.contentMissing (.response method path status)] else [] := by
  cases r with
  | reference target =>
      simp [responseFindings, Response.toJson, Response.isBodiless, Json.get?_obj]
  | inline description content =>
      have hcontent : (Response.inline description content).toJson.get? "content" =
          content.map Content.toJson := by
        simp [Response.toJson, Json.get?_obj, List.lookup_append]
      have hinline : (Response.inline description content).toJson.get? "$ref" = none := by
        simp [Response.toJson, Json.get?_obj, List.lookup_append]
      rw [responseFindings, if_pos (by rw [hinline]; rfl)]
      cases content with
      | some c => exact contentFindings_of_content c hcontent
      | none =>
          rw [contentFindings, hcontent]
          rfl

/-- The findings about written responses are those about the responses without content. -/
theorem flatMap_responseFindings (responses : Table String Response) :
    ((responses.map fun entry => (entry.1, entry.2.toJson)).flatMap
      (responseFindings method path)) =
      (responses.filter (·.2.isBodiless)).map fun entry =>
        .contentMissing (.response method path entry.1) := by
  induction responses with
  | nil => rfl
  | cons entry rest ih =>
      rw [List.map_cons, List.flatMap_cons, ih, responseFindings_toJson]
      cases hbodiless : entry.2.isBodiless <;> simp [hbodiless]

theorem responsesOf_toJson (o : Operation) :
    responsesOf o.toJson = o.responses.map fun entry => (entry.1, entry.2.toJson) := by
  simp [responsesOf, Operation.get?_responses, Json.ofTable, Json.asObject?]

variable (fields : Option (List FieldRecord)) (e : Endpoint)

theorem securityFindings_ofEndpoint :
    securityFindings place (Operation.ofEndpoint fields e).toJson = [] := by
  rw [securityFindings, Operation.get?_security]
  cases hauth : e.requiresAuth with
  | false => simp [Operation.ofEndpoint, hauth, Json.asArray?]
  | true =>
      simp [Operation.ofEndpoint, hauth, Json.asArray?, isAccepted, acceptedSchemes,
        SecurityRequirement.toJson, Json.get?_ofTable, Operation.securityScheme]

/-- Every status that the recommended rules ask for is declared or shared. -/
theorem statusFindings_ofEndpoint :
    Options.recommended.statusFindings place (Operation.ofEndpoint fields e).toJson = [] := by
  have hanswered : ∀ status ∈ Options.recommended.requiredStatuses,
      ((responsesOf (Operation.ofEndpoint fields e).toJson).lookup status).isSome := by
    intro status hstatus
    have hshared : (Operation.sharedResponses.lookup status).isSome := by
      revert status
      decide
    rw [responsesOf_toJson, Table.lookup_map_snd, Option.isSome_map]
    simp [Operation.ofEndpoint, Operation.lookup_responsesOf, hshared]
  have hnonempty : (responsesOf (Operation.ofEndpoint fields e).toJson).isEmpty = false := by
    have h := hanswered "400" (by decide)
    cases hresponses : responsesOf (Operation.ofEndpoint fields e).toJson with
    | nil => simp [hresponses] at h
    | cons head rest => rfl
  rw [Options.statusFindings, hnonempty, if_neg Bool.false_ne_true, List.map_eq_nil_iff,
    List.filter_eq_nil_iff]
  intro status hstatus
  simpa using hanswered status hstatus

theorem bodyFindings_ofEndpoint :
    bodyFindings place (Operation.ofEndpoint fields e).toJson = [] := by
  rw [bodyFindings, Operation.get?_requestBody]
  cases hbody : (Operation.ofEndpoint fields e).requestBody with
  | none => rfl
  | some body =>
      refine (if_pos rfl).trans (contentFindings_of_content body.content ?_)
      simp [RequestBody.toJson, Json.get?_obj, List.lookup_append]

/-- The findings about responses that an endpoint declares without content. -/
def bodilessFindings (e : Endpoint) : List Finding :=
  (e.responses.filter (·.2.isBodiless)).map fun entry =>
    .contentMissing (.response e.verb.key e.path (toString entry.1))

/-- The rules object to nothing else in the operation of an endpoint. -/
theorem operationFindings_ofEndpoint :
    (Options.recommended.operationFindings e.verb.key e.path
      (Operation.ofEndpoint fields e).toJson).Perm (bodilessFindings e) := by
  have hdeclared : ((Operation.declaredResponses e).filter (·.2.isBodiless)).map (fun entry =>
      Finding.contentMissing (.response e.verb.key e.path entry.1)) = bodilessFindings e := by
    simp [Operation.declaredResponses, bodilessFindings, List.filter_map, Function.comp_def,
      DeclaredResponse.isBodiless_toResponse]
  rw [Options.operationFindings, securityFindings_ofEndpoint, statusFindings_ofEndpoint,
    bodyFindings_ofEndpoint, List.nil_append, List.nil_append, List.nil_append,
    responsesOf_toJson, flatMap_responseFindings, ← hdeclared]
  exact (Operation.bodiless_responsesOf e).map _

-- A status that never has a body is objected to, a problem without a type is not.
example : Options.recommended.operationFindings "delete" "/v1/items" (Operation.ofEndpoint none
    { verb := .delete, path := "/v1/items", requestType := "Removal", responseType := "Done",
      responses := [(204, ⟨none, ContentType.json⟩), (404, ⟨none, ContentType.problem⟩)]
      sorted := by decide }).toJson =
    [.contentMissing (.response "delete" "/v1/items" "204")] := by decide

end Lint

end RouteContract
