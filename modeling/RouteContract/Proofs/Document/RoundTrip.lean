import Mathlib.Tactic
import RouteContract.Proofs.Schema.RoundTrip

/-!
Documents read back from their JSON form, whatever parts of them are left out. Tables are read into
the order of their keys, in which a document has them already.

The one place where the form does not say what it holds is a response: a reference and a response in
place are told apart by trying. A response in place is never taken for a reference, since it is
written without the member that a reference must have.
-/

namespace RouteContract

open Json (Codec namedBy_member namedBy_optionalMember)
open Json.Slot (optional?_ofOption)

theorem Json.optional?_text (value : Option String) :
    Slot.optional? asText? (.ofOption (value.map .str)) = some value :=
  optional?_ofOption (fun _ => Json.noConfusion) fun _ _ => rfl

theorem Info.codec : Codec Info.toJson Info.ofJson? := by
  intro i
  have hslots : Json.slots? ["title", "version", "description"] i.toJson = some
      ([some (.str i.title), some (.str i.version), i.description.map .str].map
        Json.Slot.ofOption) := by
    rw [toJson, Json.slots?_of_namedBy (by decide)]
    · simp [List.lookup_append]
    · exact ((namedBy_member _ _).append (namedBy_member _ _)).append
        (namedBy_optionalMember _ _ _)
  simp [ofJson?, hslots, Json.optional?_text, Json.Slot.required?_ofOption, Json.asText?]

/-- A table of schemas is read as it was written, if every schema in it is. -/
theorem SchemaTable.codec {encode : Schema → Json} {decode : Json → Option DistinctSchema}
    (c : Codec (fun s : DistinctSchema => encode s.val) decode) :
    Codec (fun t : SchemaTable => Json.ofTable encode t.entries)
      (fun j => (Json.entries? decode j).map SchemaTable.ofList) := by
  rintro ⟨entries, sorted, distinct⟩
  obtain ⟨given, rfl⟩ := DistinctSchema.exists_map_val distinct
  have hsorted : Table.ofList given = given := Table.ofList_of_sorted (Table.sorted_map.mp sorted)
  dsimp only
  rw [DistinctSchema.ofTable_map_val, c.entries, Option.map_some]
  simp only [SchemaTable.ofList, hsorted]

theorem Content.media_codec :
    Codec (fun s : DistinctSchema => mediaToJson s.val) mediaOfJson? := by
  intro s
  have hslots : Json.slots? ["schema"] (mediaToJson s.val) =
      some [Json.Slot.ofOption (some s.val.toJson)] := by
    rw [mediaToJson, Json.slots?_of_namedBy (by decide) (namedBy_member _ _)]
    simp
  simp [mediaOfJson?, hslots, Json.Slot.required?_ofOption, DistinctSchema.codec s]

theorem Content.codec : Codec Content.toJson Content.ofJson? :=
  SchemaTable.codec Content.media_codec

theorem Parameter.codec : Codec Parameter.toJson Parameter.ofJson? := by
  intro p
  have hslots : Json.slots? ["name", "in", "required", "schema"] p.toJson = some
      ([some (.str p.name), some (.str p.location), some (.bool p.required),
        some p.schema.toJson].map Json.Slot.ofOption) := by
    rw [toJson, Json.slots?_of_namedBy (by decide)]
    · simp [List.lookup_append]
    · exact (((namedBy_member _ _).append (namedBy_member _ _)).append
        (namedBy_member _ _)).append (namedBy_member _ _)
  simp [ofJson?, hslots, Json.Slot.required?_ofOption, Json.asText?, Json.asBool?,
    DistinctSchema.codec ⟨p.schema, p.distinct⟩]

theorem RequestBody.codec : Codec RequestBody.toJson RequestBody.ofJson? := by
  intro b
  have hslots : Json.slots? ["required", "content"] b.toJson = some
      ([some (.bool b.required), some (Content.toJson b.content)].map Json.Slot.ofOption) := by
    rw [toJson, Json.slots?_of_namedBy (by decide)]
    · simp [List.lookup_append]
    · exact (namedBy_member _ _).append (namedBy_member _ _)
  simp [ofJson?, hslots, Json.Slot.required?_ofOption, Json.asBool?, Content.codec b.content]

namespace Response

theorem ofJson?_reference (target : String) :
    ofJson? (toJson (.reference target)) = some (.reference target) := by
  have hslots : Json.slots? ["$ref"] (toJson (.reference target)) =
      some [Json.Slot.ofOption (some (.str target))] := by
    rw [toJson, Json.slots?_of_namedBy (by decide) (namedBy_member _ _)]
    simp
  rw [toJson] at hslots
  simp [ofJson?, toJson, referenceOfJson?, hslots, Json.Slot.required?_ofOption, Json.asText?]

/-- A response in place has no reference, and so is read as what it is. -/
theorem ofJson?_inline (description : String) (content : Option Content) :
    ofJson? (toJson (.inline description content)) = some (.inline description content) := by
  have hnames := (namedBy_member "description" (.str description)).append
    (namedBy_optionalMember "content" Content.toJson content)
  have hdistinct := (show ["description", "content"].Nodup by decide).sublist hnames
  have hreference : referenceOfJson? (toJson (.inline description content)) = none := by
    rw [toJson, referenceOfJson?, Json.slots?_obj hdistinct]
    simp [List.lookup_append, Json.Slot.ofOption, Json.Slot.required?]
  have hslots : Json.slots? ["description", "content"] (toJson (.inline description content)) =
      some ([some (.str description), content.map Content.toJson].map Json.Slot.ofOption) := by
    rw [toJson, Json.slots?_obj hdistinct]
    simp [List.lookup_append]
  have hread : Json.Slot.optional? Content.ofJson?
      (.ofOption (content.map Content.toJson)) = some content :=
    optional?_ofOption (fun _ => Json.noConfusion) fun c _ => Content.codec c
  rw [ofJson?, hreference]
  simp [inlineOfJson?, hslots, hread, Json.Slot.required?_ofOption, Json.asText?]

theorem codec : Codec toJson ofJson?
  | .reference target => ofJson?_reference target
  | .inline description content => ofJson?_inline description content

end Response

theorem SecurityRequirement.codec : Codec toJson ofJson? := by
  rintro ⟨scopes, sorted⟩
  rw [toJson, ofJson?, Codec.texts.entries]
  simp only [Option.map_some, Table.ofList_of_sorted sorted]

namespace Operation

/-- Parameters are written if there are any. -/
def parametersMember (o : Operation) : List (String × Json) :=
  if o.parameters.isEmpty then []
  else Json.member "parameters" (.arr (o.parameters.map Parameter.toJson))

theorem slots?_toJson (o : Operation) :
    Json.slots? memberNames o.toJson = some ([some (.str o.operationId), some (.str o.summary),
      o.description.map .str, some (Json.texts o.tags),
      some (.arr (o.security.map SecurityRequirement.toJson)),
      o.parametersMember.lookup "parameters", o.requestBody.map RequestBody.toJson,
      some (Json.ofTable Response.toJson o.responses)].map Json.Slot.ofOption) := by
  have hparameters : Json.NamedBy ["parameters"] o.parametersMember := by
    rw [parametersMember]
    split
    · exact List.nil_sublist _
    · exact namedBy_member _ _
  have hother (name : String) (hname : name ≠ "parameters") :
      o.parametersMember.lookup name = none := by
    rw [parametersMember]
    split <;> simp [hname]
  change Json.slots? memberNames (.obj (_ ++ o.parametersMember ++ _ ++ _)) = _
  rw [Json.slots?_of_namedBy (by decide)]
  · simp [memberNames, List.lookup_append, hother]
  · exact (((((((namedBy_member _ _).append (namedBy_member _ _)).append
      (namedBy_optionalMember _ _ _)).append (namedBy_member _ _)).append
      (namedBy_member _ _)).append hparameters).append (namedBy_optionalMember _ _ _)).append
      (namedBy_member _ _)

theorem defaulted?_parameters (o : Operation) :
    Json.Slot.defaulted? [] (Json.list? Parameter.ofJson?)
      (.ofOption (o.parametersMember.lookup "parameters")) = some o.parameters := by
  rw [parametersMember]
  split
  · next hempty =>
    rw [List.isEmpty_iff.mp hempty]
    rfl
  · rw [Json.lookup_member, if_pos rfl]
    exact Parameter.codec.list o.parameters

theorem codec : Codec toJson ofJson? := by
  intro o
  have hbody : Json.Slot.optional? RequestBody.ofJson?
      (.ofOption (o.requestBody.map RequestBody.toJson)) = some o.requestBody :=
    optional?_ofOption (fun _ => Json.noConfusion) fun b _ => RequestBody.codec b
  have hsecurity := SecurityRequirement.codec.list o.security
  have hresponses := Response.codec.entries o.responses
  simp [ofJson?, slots?_toJson, Json.optional?_text, Json.Slot.required?_ofOption, Json.asText?,
    Codec.texts o.tags, hsecurity, o.defaulted?_parameters, hbody, hresponses,
    Table.ofList_of_sorted o.sorted]

end Operation

theorem PathItem.codec : Codec toJson ofJson? := by
  rintro ⟨operations, sorted⟩
  rw [toJson, ofJson?, Operation.codec.entries]
  simp only [Option.map_some, Table.ofList_of_sorted sorted]

namespace Document

theorem components_codec :
    Codec (fun t : SchemaTable => componentsToJson t.entries) componentsOfJson? := by
  intro t
  have hslots : Json.slots? ["schemas"] (componentsToJson t.entries) =
      some [Json.Slot.ofOption (some (Json.ofTable Schema.toJson t.entries))] := by
    rw [componentsToJson, Json.slots?_of_namedBy (by decide) (namedBy_member _ _)]
    simp
  have hread := SchemaTable.codec DistinctSchema.codec t
  dsimp only at hread
  rw [componentsOfJson?, hslots, ← hread]
  cases hentries : Json.entries? DistinctSchema.ofJson? (Json.ofTable Schema.toJson t.entries) <;>
    simp [Json.Slot.required?_ofOption, hentries]

theorem codec : Codec toJson ofJson? := by
  intro d
  have hslots : Json.slots? ["openapi", "info", "paths", "components"] d.toJson = some
      ([some (.str d.version), some d.info.toJson, some (Json.ofTable PathItem.toJson d.paths),
        some (componentsToJson d.schemas)].map Json.Slot.ofOption) := by
    rw [toJson, Json.slots?_of_namedBy (by decide)]
    · simp [List.lookup_append]
    · exact (((namedBy_member _ _).append (namedBy_member _ _)).append
        (namedBy_member _ _)).append (namedBy_member _ _)
  have hcomponents : componentsOfJson? (componentsToJson d.schemas) = some d.components :=
    components_codec d.components
  simp [ofJson?, hslots, Json.Slot.required?_ofOption, Json.asText?, Info.codec d.info,
    PathItem.codec.entries d.paths, hcomponents, Table.ofList_of_sorted d.sorted]

/-- A document is read as it was written, the order of properties included, and writing what has
been read gives the same JSON value again. -/
theorem ofJson?_toJson (d : Document) :
    ofJson? d.toJson = some d ∧
      ∀ again, ofJson? d.toJson = some again → again.toJson = d.toJson := by
  have hread := codec d
  refine ⟨hread, ?_⟩
  intro again hagain
  rw [hread] at hagain
  cases hagain
  rfl

/-- Nested schemas, empty lists and tables that are there, and responses of both kinds. -/
theorem ofJson?_toJson_items :
    let item : Schema :=
      { properties := some [("tags", { items := some { members := some [] } }), ("id", {}),
          ("more", { properties := some [] })]
        required := some [] }
    let operation : Operation :=
      { operationId := "list", summary := "", tags := []
        security := [{}, { scopes := [("OAuth2", ["read"])], sorted := Table.sorted_singleton _ }]
        requestBody := some ⟨false, .single "text/csv" item (by decide)⟩
        responses := [("200", .inline "ok" (some {})), ("204", .inline "$ref" none),
          ("400", .reference "")]
        sorted := by decide }
    let d : Document :=
      { version := "3.1.0", info := { title := "Items", version := "1" }
        paths := [("/v1/a", {}),
          ("/v1/b", { operations := [("get", operation)], sorted := Table.sorted_singleton _ })]
        components := .single "Item" item (by decide)
        sorted := by decide }
    ofJson? d.toJson = some d := by
  intro item operation d
  exact (ofJson?_toJson d).1

end Document

end RouteContract
