import RouteContract.Proofs.Lint.Generated
import RouteContract.Proofs.Lint.Policy
import RouteContract.Proofs.Schema.Fields
import RouteContract.Proofs.Schema.Reachability
import RouteContract.Proofs.Schema.RoundTrip

/-!
Documented fields and the rule about sensitive properties. The text of a documenting comment goes
from the field to the property that it gives in a component, also through types that are inlined,
and so the rule has nothing to object to. Only a property that is nothing but a reference to another
component has no place for it.
-/

namespace RouteContract

open Source (Index Expr)

namespace Schema

theorem get?_description (s : Schema) : s.toJson.get? "description" = s.description.map .str := by
  rw [toJson_eq, Json.get?_obj]
  simp [List.lookup_append]

theorem get?_properties (s : Schema) :
    s.toJson.get? "properties" = s.properties.map (Json.ofTable toJson) := by
  rw [toJson_eq, Json.get?_obj]
  simp [List.lookup_append]

/-- The schema of a field has the description of the field, unless it is a reference. -/
theorem description_ofField (f : FieldRecord) :
    (ofField f).description =
      match f.descriptor with
      | .reference _ => none
      | _ => f.description := by
  rw [ofField]
  cases f.descriptor <;> rfl

/-- Fields with names of their own are properties one by one. -/
theorem properties_ofFields {fs : List FieldRecord} (hdistinct : (fs.map (·.wireName)).Nodup) :
    (ofFields fs).properties = some (fs.map fun f => (f.wireName, ofField f)) := by
  have hnames : ((fs.map fun f => (f.wireName, ofField f)).map (·.1)).Nodup := by
    rwa [List.map_map]
  rw [ofFields, objectWith, Json.setMembers_of_nodup hnames]

end Schema

namespace Lint

variable {index : Index} {info : Info} {es : List Endpoint} {o : Options} {name : String}
  {fs : List FieldRecord} {f : FieldRecord}

theorem isDescribed_ofField (f : FieldRecord) :
    isDescribed (Schema.ofField f).toJson ↔
      (∀ other, f.descriptor ≠ .reference other) ∧
        ∃ text, f.description = some text ∧ ¬ Text.isBlankText text := by
  rw [isDescribed_iff, Schema.get?_description, Schema.description_ofField]
  cases f.descriptor <;> simp

theorem undescribed_mem_schemaFindings {property schemaName : String} {schema : String × Json} :
    .undescribed property schemaName ∈ o.schemaFindings schema ↔
      schemaName = schema.1 ∧ ∃ properties, schema.2.get? "properties" = some (.obj properties) ∧
        ∃ value, (property, value) ∈ properties ∧
          o.sensitiveNames.any (Text.sameIgnoringCase · property) ∧ ¬ isDescribed value := by
  rw [Options.schemaFindings]
  cases hproperties : (schema.2.get? "properties").bind Json.asObject? with
  | none =>
    refine iff_of_false (by simp) ?_
    rintro ⟨-, properties, hget, -⟩
    rw [hget] at hproperties
    cases hproperties
  | some properties =>
    obtain ⟨value, hget, hobject⟩ := Option.bind_eq_some_iff.mp hproperties
    rw [Json.asObject?_eq_some.mp hobject] at hget
    rw [hget]
    simp only [Option.getD_some, List.mem_map, List.mem_filter, Bool.and_eq_true,
      Bool.not_eq_true', Finding.undescribed.injEq, Option.some.injEq, Json.obj.injEq,
      exists_eq_left', Bool.not_eq_true]
    constructor
    · rintro ⟨⟨found, value⟩, ⟨hmem, hsensitive, hplain⟩, rfl, rfl⟩
      exact ⟨rfl, value, hmem, hsensitive, hplain⟩
    · rintro ⟨rfl, value, hmem, hsensitive, hplain⟩
      exact ⟨(property, value), ⟨hmem, hsensitive, hplain⟩, rfl, rfl⟩

theorem schemasOf_toJson (d : Document) :
    schemasOf d.toJson = d.schemas.map fun entry => (entry.1, entry.2.toJson) := by
  have hcomponents : d.toJson.get? "components" = some (Document.componentsToJson d.schemas) := by
    simp [Document.toJson, Json.get?_obj, List.lookup_append]
  rw [schemasOf, hcomponents]
  rfl

theorem undescribed_mem_findings {property schemaName : String} {d : Document}
    {requirePaths : Bool} (hversion : d.version = formatVersion) :
    .undescribed property schemaName ∈ o.findings d.toJson requirePaths ↔
      ∃ schema, (schemaName, schema) ∈ d.schemas ∧
        .undescribed property schemaName ∈ o.schemaFindings (schemaName, schema.toJson) := by
  have hpaths : .undescribed property schemaName ∉ o.pathsFindings d.toJson requirePaths := by
    intro h
    rcases mem_pathsFindings h with hoperational | ⟨path, hpath | hpath⟩ | hnone
    · cases hoperational
    · cases hpath
    · cases hpath
    · cases hnone
  rw [findings_of_version o requirePaths (by rw [Document.get?_version, hversion]),
    List.mem_append, or_iff_right hpaths, schemasOf_toJson, List.flatMap_map, List.mem_flatMap]
  constructor
  · rintro ⟨⟨found, schema⟩, hmem, hfound⟩
    obtain rfl := (undescribed_mem_schemaFindings.mp hfound).1
    exact ⟨schema, hmem, hfound⟩
  · rintro ⟨schema, hmem, hfound⟩
    exact ⟨(schemaName, schema), hmem, hfound⟩

/-- A record with fields has the object of its fields as its schema in the document. -/
theorem mem_schemas_ofEndpoints (index : Index) (info : Info) (es : List Endpoint)
    (hcomponent : name ∈ (Document.ofEndpoints index info es).schemas.map (·.1))
    (hfields : index.fieldsOf name = .ok (some fs)) (hf : f ∈ fs) (schema : Schema) :
    (name, schema) ∈ (Document.ofEndpoints index info es).schemas ↔ schema = .ofFields fs := by
  have hanswer : index.fields? name = some fs := by rw [Index.fields?, hfields]
  have hkeys (component : Component)
      (hmem : (name, component) ∈ (Assembly.ofEndpoints index es).components) :
      component.schema = .ofFields fs := by
    have hnodup := (Assembly.ofEndpoints index es).sorted.nodup
    have hlookup := Assembly.faithful_ofEndpoints index es name component
      (Table.lookup_of_mem hnodup hmem)
    rw [hanswer] at hlookup
    cases fs with
    | nil => cases hf
    | cons first rest => rw [Component.schema, hlookup]
  constructor
  · intro h
    obtain ⟨⟨found, component⟩, hmem, heq⟩ := List.mem_map.mp h
    cases heq
    exact hkeys component hmem
  · rintro rfl
    obtain ⟨⟨found, schema⟩, hmem, rfl⟩ := List.mem_map.mp hcomponent
    obtain ⟨⟨found, component⟩, hmem', heq⟩ := List.mem_map.mp hmem
    cases heq
    rw [← hkeys component hmem']
    exact hmem

/-- What the rule about sensitive properties says about a field of a component. -/
theorem undescribed_mem_iff (index : Index) (info : Info) (es : List Endpoint) (o : Options)
    (requirePaths : Bool)
    (hcomponent : name ∈ (Document.ofEndpoints index info es).schemas.map (·.1))
    (hfields : index.fieldsOf name = .ok (some fs)) (hdistinct : (fs.map (·.wireName)).Nodup)
    (hf : f ∈ fs) :
    .undescribed f.wireName name ∈
        o.findings (Document.ofEndpoints index info es).toJson requirePaths ↔
      o.sensitiveNames.any (Text.sameIgnoringCase · f.wireName) ∧
        ¬ isDescribed (Schema.ofField f).toJson := by
  have hproperties : (Schema.ofFields fs).toJson.get? "properties" =
      some (.obj (fs.map fun f => (f.wireName, (Schema.ofField f).toJson))) := by
    rw [Schema.get?_properties, Schema.properties_ofFields hdistinct, Option.map_some, Json.ofTable,
      List.map_map]
    rfl
  have hvalue (value : Json) :
      (f.wireName, value) ∈ (fs.map fun f => (f.wireName, (Schema.ofField f).toJson)) ↔
        value = (Schema.ofField f).toJson := by
    rw [List.mem_map]
    constructor
    · rintro ⟨g, hg, heq⟩
      obtain ⟨hname, rfl⟩ := Prod.mk.inj heq
      rw [List.inj_on_of_nodup_map hdistinct hg hf hname]
    · rintro rfl
      exact ⟨f, hf, rfl⟩
  rw [undescribed_mem_findings rfl]
  simp only [mem_schemas_ofEndpoints index info es hcomponent hfields hf, exists_eq_left,
    undescribed_mem_schemaFindings, hproperties, true_and, Option.some.injEq, Json.obj.injEq,
    exists_eq_left', hvalue]

/-- The rule about sensitive properties objects to a documented field of a component only if the
property is a bare reference: a comment is the description of every other property. This holds of
the fields of types that are inlined as well. -/
theorem undescribed_of_documented (index : Index) (info : Info) (es : List Endpoint) (o : Options)
    (requirePaths : Bool) {field : Source.Field Expr}
    (hcomponent : name ∈ (Document.ofEndpoints index info es).schemas.map (·.1))
    (hfields : index.fieldsOf name = .ok (some fs)) (hdistinct : (fs.map (·.wireName)).Nodup)
    (hgives : index.Gives Index.flattenDepth name field f) (hdocumented : field.isDocumented) :
    .undescribed f.wireName name ∈
        o.findings (Document.ofEndpoints index info es).toJson requirePaths ↔
      o.sensitiveNames.any (Text.sameIgnoringCase · f.wireName) ∧
        ∃ other, f.descriptor = .reference other := by
  have hf : f ∈ fs := (Index.mem_fieldsWithin hfields).mpr ⟨field, hgives⟩
  obtain ⟨text, htext, hblank⟩ := exists_docText?_of_isDocumented hdocumented
  rw [← hgives.description] at htext
  rw [undescribed_mem_iff index info es o requirePaths hcomponent hfields hdistinct hf,
    isDescribed_ofField]
  refine and_congr_right fun _ => ?_
  constructor
  · intro hplain
    by_contra hreference
    exact hplain ⟨fun other hother => hreference ⟨other, hother⟩, text, htext, hblank⟩
  · rintro ⟨other, hother⟩ ⟨hreference, -⟩
    exact hreference other hother

theorem mem_schemas_of_payload (index : Index) (info : Info)
    (h : name ∈ Assembly.payloads es) :
    name ∈ (Document.ofEndpoints index info es).schemas.map (·.1) := by
  obtain ⟨role, hrole⟩ := Option.isSome_iff_exists.mp (Assembly.payloadRole?_isSome_iff.mpr h)
  have hcomponent := Assembly.component?_of_payloadRole? index hrole
  have hmem := Table.mem_of_lookup hcomponent
  exact List.mem_map.mpr ⟨_, List.mem_map_of_mem hmem, rfl⟩

/-- A documented password in a type that is inlined into a payload. -/
theorem undescribed_of_documented_inlined :
    let password : Source.Field Expr := ⟨"password", .ofName "String",
      [{ name := some "doc", value := some (.literal (.text " Checked on every call.")) }]⟩
    let account : Source.RecordDecl Expr :=
      { name := "Account", fields := [⟨"id", .ofName "u32", []⟩, password] }
    let login : Source.RecordDecl Expr := { name := "Login", fields :=
      [⟨"account", .ofName "Account", [{ settings := [.flatten] }]⟩] }
    let index := Index.ofFiles
      [{ path := "lib.rs", items := [.record login [], .record account []] }]
    let es : List Endpoint :=
      [{ verb := .post, path := "/v1/login", requestType := "Login", responseType := "Reply" }]
    let document := (Document.ofEndpoints index Document.defaultInfo es).toJson
    password.isDocumented ∧
    Options.recommended.sensitiveNames.any (Text.sameIgnoringCase · "password") ∧
    .undescribed "password" "Login" ∉ Options.recommended.findings document true := by
  intro password account login index es document
  have hdocumented : password.isDocumented := by decide +kernel
  refine ⟨hdocumented, by decide +kernel, fun hfound => ?_⟩
  let fs := (index.fields? "Login").getD []
  have hfields : index.fieldsOf "Login" = .ok (some fs) := by rfl
  have hcomponent := mem_schemas_of_payload index Document.defaultInfo
    (show "Login" ∈ Assembly.payloads es by decide)
  have hpassword : password ∈ account.fields := List.mem_cons_of_mem _ List.mem_cons_self
  have hown := @Index.Gives.own index 7 "Account" account password (.primitive .string none) false
    rfl hpassword rfl rfl nofun
  have hgives : index.Gives Index.flattenDepth "Login" password _ :=
    .inlined rfl List.mem_cons_self rfl rfl rfl hown
  have hrule := undescribed_of_documented index Document.defaultInfo es Options.recommended true
    hcomponent hfields (by decide +kernel) hgives hdocumented
  have hname : (Index.fieldRecord (WireSettings.ofAttributes account.attributes)
      (WireSettings.ofAttributes password.attributes) password
      (.primitive .string none) false).wireName = "password" := by decide +kernel
  rw [hname] at hrule
  obtain ⟨-, other, hother⟩ := hrule.mp hfound
  cases hother

/-- A documented password of a declared type of its own: the property is a bare reference, and the
comment is lost. -/
theorem undescribed_of_documented_reference :
    let password : Source.Field Expr := ⟨"password", .ofName "Secret",
      [{ name := some "doc", value := some (.literal (.text " Checked on every call.")) }]⟩
    let login : Source.RecordDecl Expr := { name := "Login", fields := [password] }
    let index := Index.ofFiles [{ path := "lib.rs", items := [.record login []] }]
    let es : List Endpoint :=
      [{ verb := .post, path := "/v1/login", requestType := "Login", responseType := "Reply" }]
    let document := (Document.ofEndpoints index Document.defaultInfo es).toJson
    password.isDocumented ∧
    .undescribed "password" "Login" ∈ Options.recommended.findings document true := by
  intro password login index es document
  refine ⟨by decide +kernel, ?_⟩
  let f := Index.fieldRecord (WireSettings.ofAttributes login.attributes)
    (WireSettings.ofAttributes password.attributes) password (.reference "Secret") false
  have hfields : index.fieldsOf "Login" = .ok (some [f]) := by rfl
  have hcomponent := mem_schemas_of_payload index Document.defaultInfo
    (show "Login" ∈ Assembly.payloads es by decide)
  have hrule := undescribed_mem_iff index Document.defaultInfo es Options.recommended true
    hcomponent hfields (List.nodup_singleton _) (List.mem_singleton_self f)
  have hname : f.wireName = "password" := by decide +kernel
  rw [hname] at hrule
  refine hrule.mpr ⟨by decide +kernel, fun hdescribed => ?_⟩
  exact ((isDescribed_ofField f).mp hdescribed).1 "Secret" rfl

end Lint

end RouteContract
