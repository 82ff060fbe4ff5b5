import RouteContract.Proofs.Document.Required
import RouteContract.Proofs.Endpoint.Template

/-!
What the operations of a document say about requests. The parameters are the placeholders of the
path, which are its template expressions wherever these are segments of their own without a
constraint. A form is described in place and as a component of the document; both are built from the
fields of the request type, one with the values as texts, and agree in everything else.
-/

namespace RouteContract

open Source (Index Expr)

namespace Document

variable {index : Index} {e : Endpoint} {es : List Endpoint} {fs : List FieldRecord}

/-- Every endpoint finds the parameters of its path in its place of the document, be it the first
one there or not. -/
theorem exists_parameters (index : Index) (info : Info) (he : e ∈ es) :
    ∃ operation, operation? (ofEndpoints index info es).paths e.path e.verb.key = some operation ∧
      operation.parameters = (Template.parameters e.path).map Operation.pathParameter := by
  have hplace : (es.find? fun other => other.path = e.path ∧ other.verb.key = e.verb.key).isSome :=
    List.find?_isSome.mpr ⟨e, he, by simp⟩
  obtain ⟨first, hfirst⟩ := Option.isSome_iff_exists.mp hplace
  have hpath : first.path = e.path := by
    have hfound := List.find?_some hfirst
    rw [decide_eq_true_iff] at hfound
    exact hfound.1
  refine ⟨Operation.ofEndpoint ((Assembly.ofEndpoints index es).fieldsOf? first.requestType) first,
    ?_, ?_⟩
  · change operation? (pathsOf _ es) e.path e.verb.key = _
    rw [operation?_pathsOf, hfirst, Option.map_some]
  · rw [← hpath]
    rfl

/-- The parameters of an operation are required texts in the path. Their names are those of the
placeholders, one for each segment of the path that is one; and they are the template expressions of
the path, in order and each once, if and only if every template expression is a segment of its own,
is not empty and has no constraint. -/
theorem parameters_of_path (index : Index) (info : Info) (he : e ∈ es) :
    ∃ operation, operation? (ofEndpoints index info es).paths e.path e.verb.key = some operation ∧
      (∀ p ∈ operation.parameters,
        p.location = "path" ∧ p.required = true ∧ p.schema = { type := some "string" }) ∧
      operation.parameters.map (·.name) =
        (Template.segments e.path).filterMap Template.placeholder? ∧
      (∀ segment answer, Template.Names segment answer →
        Template.placeholder? segment = answer) ∧
      (∀ x ∈ Template.expressions e.path, '\x7d' ∉ x.text ∧
        e.path.toList = x.before ++ '\x7b' :: (x.text ++ '\x7d' :: x.after)) ∧
      (operation.parameters.map (·.name) =
          (Template.expressions e.path).map (fun x => String.ofList x.text) ↔
        ∀ x ∈ Template.expressions e.path, x.IsSegment ∧ x.text ≠ [] ∧ ':' ∉ x.text) := by
  obtain ⟨operation, hoperation, hparameters⟩ := exists_parameters index info he
  have hnames : operation.parameters.map (·.name) = Template.parameters e.path := by
    rw [hparameters, List.map_map]
    exact List.map_id _
  refine ⟨operation, hoperation, ?_, hnames, fun _ _ => Template.placeholder?_of_names, ?_, ?_⟩
  · intro p hp
    rw [hparameters] at hp
    obtain ⟨name, -, rfl⟩ := List.mem_map.mp hp
    exact ⟨rfl, rfl, rfl⟩
  · intro x hx
    obtain ⟨hpath, hclose⟩ := Template.eq_of_mem_expressionsFrom List.not_mem_nil hx
    exact ⟨hclose, hpath⟩
  · rw [hnames, Template.parameters_eq_texts_iff]
    refine forall₂_congr fun x _ => ?_
    exact ⟨fun h => ⟨h.toIsSegment, h.named, h.unconstrained⟩, fun h => ⟨h.1, h.2.1, h.2.2⟩⟩

/-- A path with two placeholders and a brace that nothing closes. -/
theorem parameters_of_path_lines :
    let e : Endpoint := { verb := .get, path := "/v1/orders/\x7border\x7d/\x7bline\x7d/x\x7b",
                          requestType := "GetLine", responseType := "Line" }
    e ∈ [e] ∧ ∃ operation,
      operation? (ofEndpoints (.ofFiles []) defaultInfo [e]).paths e.path "get" = some operation ∧
      operation.parameters.map (·.name) = ["order", "line"] ∧
      ∀ p ∈ operation.parameters,
        p.location = "path" ∧ p.required = true ∧ p.schema = { type := some "string" } := by
  intro e
  have he : e ∈ [e] := List.mem_cons_self
  obtain ⟨operation, hoperation, hshape, -, -, -, hiff⟩ :=
    parameters_of_path (.ofFiles []) defaultInfo he
  have hexpressions : Template.expressions e.path =
      [⟨"/v1/orders/".toList, "order".toList, "/\x7bline\x7d/x\x7b".toList⟩,
        ⟨"/v1/orders/\x7border\x7d/".toList, "line".toList, "/x\x7b".toList⟩] := by
    decide +kernel
  refine ⟨he, operation, hoperation, ?_, hshape⟩
  rw [hexpressions] at hiff
  have hparameters := hiff.mpr fun x hx => ?_
  · rw [hparameters]
    decide +kernel
  · rcases List.mem_pair.mp hx with rfl | rfl
    · exact ⟨⟨by decide +kernel, by decide +kernel, by decide +kernel⟩, by decide +kernel,
        by decide +kernel⟩
    · exact ⟨⟨by decide +kernel, by decide +kernel, by decide +kernel⟩, by decide +kernel,
        by decide +kernel⟩

/-- Paths whose parameters are not their template expressions: a placeholder with a constraint, a
template expression that is a part of a segment only, and an empty one. -/
theorem parameters_of_constrained_path :
    let endpoint (path : String) : Endpoint :=
      { verb := .get, path, requestType := "GetLine", responseType := "Line" }
    let parameters (path : String) :=
      (operation? (ofEndpoints (.ofFiles []) defaultInfo [endpoint path]).paths path "get").map
        fun operation => operation.parameters.map (·.name)
    let texts (path : String) := (Template.expressions path).map fun x => String.ofList x.text
    parameters "/v1/lines/\x7bline:int\x7d" = some ["line"] ∧
    texts "/v1/lines/\x7bline:int\x7d" = ["line:int"] ∧
    parameters "/v1/line-\x7bline\x7d" = some [] ∧ texts "/v1/line-\x7bline\x7d" = ["line"] ∧
    parameters "/v1/lines/\x7b\x7d" = some [] ∧ texts "/v1/lines/\x7b\x7d" = [""] := by
  decide +kernel

/-- Members are set in the places where their names first occur. -/
theorem map_fst_setMembers {α : Type} (new : List (String × α)) :
    (Json.setMembers [] new).map (·.1) = (new.map (·.1)).eraseDups := by
  induction new using List.reverseRecOn with
  | nil => rfl
  | append_singleton new m ih =>
    have hstep : Json.setMembers [] (new ++ [m]) =
        Json.setMember m.1 m.2 (Json.setMembers [] new) := List.foldl_concat ..
    rw [hstep, Json.map_fst_setMember, ih, List.map_append, List.eraseDups_append]
    by_cases hseen : m.1 ∈ new.map (·.1)
    · rw [if_pos (List.mem_eraseDups.mpr hseen)]
      simp [List.removeAll, hseen]
    · rw [if_neg (mt List.mem_eraseDups.mp hseen)]
      simp [List.removeAll, hseen, List.eraseDups_cons]

/-- What the component of a form's type and the form itself have in common with their fields. -/
theorem objectWith_names (schemaOf : FieldRecord → Schema) (fs : List FieldRecord) :
    ∃ properties, (Schema.objectWith schemaOf fs).properties = some properties ∧
      properties.map (·.1) = (fs.map (·.wireName)).eraseDups ∧
      ∀ property ∈ properties, ∃ f ∈ fs, property = (f.wireName, schemaOf f) := by
  refine ⟨_, rfl, ?_, ?_⟩
  · rw [map_fst_setMembers, List.map_map]
    rfl
  · intro property hproperty
    rcases Json.mem_setMembers hproperty with hnone | hfield
    · cases hnone
    · obtain ⟨f, hf, rfl⟩ := List.mem_map.mp hfield
      exact ⟨f, hf, rfl⟩

theorem requestBodyOf_form (f : FieldRecord) (fs : List FieldRecord)
    (hbody : e.verb.hasBody = true)
    (hform : e.requestContentType = "application/x-www-form-urlencoded") :
    ∃ body, Operation.requestBodyOf (some (f :: fs)) e = some body ∧ body.required = true ∧
      body.content.entries = [("application/x-www-form-urlencoded", .ofForm (f :: fs))] := by
  have hschema : Operation.bodySchema (some (f :: fs)) e = .ofForm (f :: fs) :=
    if_pos (beq_iff_eq.mpr hform)
  refine ⟨_, if_pos hbody, rfl, ?_⟩
  simp only [SchemaTable.single, hform, hschema]

/-- An operation whose body is a form of a record with fields. The form is described in place by an
object of texts, which has the properties of the record's component in the same order and requires
the same of them: they are the fields of the record, each where its name first occurs. -/
theorem form_agrees (index : Index) (info : Info) (he : e ∈ emitted es)
    (hbody : e.verb.hasBody = true)
    (hform : e.requestContentType = "application/x-www-form-urlencoded")
    (hfields : index.fieldsOf e.requestType = .ok (some fs)) (hsome : fs ≠ []) :
    ∃ operation body form component texts properties,
      operation? (ofEndpoints index info es).paths e.path e.verb.key = some operation ∧
      operation.requestBody = some body ∧ body.required = true ∧
      body.content.entries = [("application/x-www-form-urlencoded", form)] ∧
      (ofEndpoints index info es).schemas.lookup e.requestType = some component ∧
      form.properties = some texts ∧ component.properties = some properties ∧
      texts.map (·.1) = properties.map (·.1) ∧ form.required = component.required ∧
      (∀ property ∈ texts, property.2 = { type := some "string" }) ∧
      properties.map (·.1) = (fs.map (·.wireName)).eraseDups ∧
      component.required.getD [] = (fs.filter (·.required)).map (·.wireName) := by
  cases fs with
  | nil => exact absurd rfl hsome
  | cons f rest =>
    have hmem : e ∈ es := emittedAfter_subset [] es he
    have hpayload : e.requestType ∈ Assembly.payloads es :=
      List.mem_flatMap.mpr ⟨e, hmem, List.mem_cons_self⟩
    have hcomponent := Table.lookup_of_mem (ofEndpoints index info es).components.sorted.nodup
      (ofFields_mem_schemas index info hpayload hfields)
    have hseen : (Assembly.ofEndpoints index es).fieldsOf? e.requestType = some (f :: rest) := by
      rw [Assembly.fieldsOf?_requestType index hmem, Index.fields?, hfields]
    obtain ⟨texts, htexts, htextNames, hstrings⟩ :=
      objectWith_names (fun _ => { type := some "string" }) (f :: rest)
    obtain ⟨properties, hproperties, hnames, -⟩ := objectWith_names Schema.ofField (f :: rest)
    obtain ⟨body, hrequest, hneeded, hcontent⟩ := requestBodyOf_form f rest hbody hform
    refine ⟨_, body, .ofForm (f :: rest), _, texts, properties, operation?_of_emitted _ he, ?_,
      hneeded, hcontent, hcomponent, htexts, hproperties, htextNames.trans hnames.symm, rfl, ?_,
      hnames, Schema.requiredNames?_getD _⟩
    · rw [hseen]
      exact hrequest
    · intro property hproperty
      obtain ⟨_, -, rfl⟩ := hstrings property hproperty
      rfl

/-- A form of a record with a flattened field that brings a name a second time. -/
theorem form_agrees_draft :
    let key : Source.RecordDecl Expr := { name := "Key", fields :=
      [⟨"code", .ofName "u32", []⟩, ⟨"id", .named {} "Option" true [.ofName "String"], []⟩] }
    let draft : Source.RecordDecl Expr := { name := "Draft", fields :=
      [⟨"id", .ofName "u32", []⟩, ⟨"key", .ofName "Key", [{ settings := [.flatten] }]⟩] }
    let index := Index.ofFiles [{ path := "lib.rs", items := [.record key [], .record draft []] }]
    let e : Endpoint := { verb := .post, path := "/v1/drafts", requestType := "Draft",
                          responseType := "Key"
                          requestContentType := "application/x-www-form-urlencoded" }
    let document := ofEndpoints index defaultInfo [e]
    e ∈ emitted [e] ∧ ∃ operation body form component texts properties,
      operation? document.paths "/v1/drafts" "post" = some operation ∧
      operation.requestBody = some body ∧ body.required = true ∧
      body.content.entries = [("application/x-www-form-urlencoded", form)] ∧
      document.schemas.lookup "Draft" = some component ∧
      form.properties = some texts ∧ component.properties = some properties ∧
      texts.map (·.1) = ["id", "code"] ∧ properties.map (·.1) = ["id", "code"] ∧
      form.required = component.required ∧ component.required.getD [] = ["id", "code"] ∧
      ∀ property ∈ texts, property.2 = { type := some "string" } := by
  intro key draft index e document
  have he : e ∈ emitted [e] := List.mem_cons_self
  let fs := (index.fields? "Draft").getD []
  have hfields : index.fieldsOf e.requestType = .ok (some fs) := by rfl
  obtain ⟨operation, body, form, component, texts, properties, hoperation, hbody, hneeded, hcontent,
    hcomponent, htexts, hproperties, hagree, hrequired, hstrings, hnames, hlisted⟩ :=
    form_agrees index defaultInfo he rfl rfl hfields (by decide +kernel)
  have hwire : (fs.map (·.wireName)).eraseDups = ["id", "code"] := by decide +kernel
  refine ⟨he, operation, body, form, component, texts, properties, hoperation, hbody, hneeded,
    hcontent, hcomponent, htexts, hproperties, hagree.trans (hnames.trans hwire),
    hnames.trans hwire, hrequired, ?_, hstrings⟩
  rw [hlisted]
  decide +kernel

end Document

end RouteContract
