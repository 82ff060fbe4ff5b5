import RouteContract.Proofs.Json.Members
import RouteContract.Proofs.Lint.Documented

/-!
The names that an object must have, and its properties. Both are read off the fields of a record:
the properties into a table, in which a later field takes the place of an earlier one of its name,
and the required names into a list, in which every required field has its own entry. Every required
name is therefore a property. The two tell the same of a name if and only if none of its fields is
required except, perhaps, the last one; so they always do where the fields have names of their own.
-/

namespace RouteContract

open Source (Index Expr)

/-- Of members with one name the last that is set counts. -/
theorem Json.lookup_setMembers {α : Type} (members new : List (String × α)) (name : String) :
    (setMembers members new).lookup name =
      (new.reverse.lookup name).or (members.lookup name) := by
  induction new generalizing members with
  | nil => rfl
  | cons head rest ih =>
    have hstep : setMembers members (head :: rest) =
        setMembers (setMember head.1 head.2 members) rest := rfl
    rw [hstep, ih, lookup_setMember, List.reverse_cons, List.lookup_append, Option.or_assoc,
      Table.lookup_cons]
    by_cases hname : name = head.1
    · rw [if_pos hname, if_pos hname, Option.some_or]
    · rw [if_neg hname, if_neg hname, List.lookup_nil, Option.none_or]

theorem FieldRecord.required_iff (f : FieldRecord) :
    f.required = true ↔ f.nullable = false ∧ f.hasDefault = false := by
  rw [required, Bool.and_eq_true, Bool.not_eq_true', Bool.not_eq_true']

namespace Schema

variable {fs earlier later : List FieldRecord} {f : FieldRecord} {wire : String}

theorem lookup_properties (fs : List FieldRecord) (wire : String) :
    (Json.setMembers [] (fs.map fun f => (f.wireName, ofField f))).lookup wire =
      (fs.map fun f => (f.wireName, ofField f)).reverse.lookup wire := by
  rw [Json.lookup_setMembers, List.lookup_nil, Option.or_none]

/-- Fields have properties under their names, and there are no other properties. -/
theorem mem_properties_iff :
    wire ∈ (Json.setMembers [] (fs.map fun f => (f.wireName, ofField f))).map (·.1) ↔
      wire ∈ fs.map (·.wireName) := by
  rw [← Table.lookup_isSome_iff, lookup_properties, Table.lookup_isSome_iff, List.map_reverse,
    List.mem_reverse, List.map_map]
  rfl

/-- The property of a name is that of its last field. -/
theorem lookup_properties_of_last (earlier : List FieldRecord)
    (hlast : ∀ g ∈ later, g.wireName ≠ f.wireName) :
    (Json.setMembers []
      ((earlier ++ f :: later).map fun f => (f.wireName, ofField f))).lookup f.wireName =
        some (ofField f) := by
  have hlater : (later.map fun f => (f.wireName, ofField f)).reverse.lookup f.wireName = none := by
    rw [Table.lookup_eq_none_iff, List.map_reverse, List.mem_reverse, List.map_map]
    intro hmem
    obtain ⟨g, hg, hname⟩ := List.mem_map.mp hmem
    exact hlast g hg hname
  rw [lookup_properties, List.map_append, List.map_cons, List.reverse_append, List.reverse_cons,
    List.append_assoc, List.lookup_append, hlater, Option.none_or, List.singleton_append,
    Table.lookup_cons, if_pos rfl]

theorem requiredNames?_getD (fs : List FieldRecord) :
    (requiredNames? fs).getD [] = (fs.filter (·.required)).map (·.wireName) := by
  rw [requiredNames?]
  split
  · next hnone => rw [hnone, Option.getD_none]
  · rfl

theorem mem_required_iff :
    wire ∈ (fs.filter (·.required)).map (·.wireName) ↔
      ∃ f ∈ fs, f.required = true ∧ f.wireName = wire := by
  simp only [List.mem_map, List.mem_filter, and_assoc]

theorem count_required_eq_zero (h : ∀ f ∈ fs, f.wireName = wire → f.required = false) :
    ((fs.filter (·.required)).map (·.wireName)).count wire = 0 := by
  rw [List.count_eq_zero, mem_required_iff]
  rintro ⟨f, hf, hrequired, hname⟩
  rw [h f hf hname] at hrequired
  cases hrequired

/-- A name is required once for the last field, if that one is, and for the earlier ones. -/
theorem count_required_of_last (hlast : ∀ g ∈ later, g.wireName ≠ f.wireName) :
    (((earlier ++ f :: later).filter (·.required)).map (·.wireName)).count f.wireName =
      ((earlier.filter (·.required)).map (·.wireName)).count f.wireName +
        if f.required then 1 else 0 := by
  have hlater : ((later.filter (·.required)).map (·.wireName)).count f.wireName = 0 :=
    count_required_eq_zero fun g hg hname => absurd hname (hlast g hg)
  rw [List.filter_append, List.map_append, List.count_append, List.filter_cons]
  split
  · rw [List.map_cons, List.count_cons_self, hlater]
  · rw [hlater]

/-- A name is required at most once, and exactly if the last field of the name is, if and only if no
earlier field of the name is required. -/
theorem required_agrees_iff (earlier : List FieldRecord)
    (hlast : ∀ g ∈ later, g.wireName ≠ f.wireName) :
    (((earlier ++ f :: later).filter (·.required)).map (·.wireName)).count f.wireName ≤ 1 ∧
      (f.wireName ∈ ((earlier ++ f :: later).filter (·.required)).map (·.wireName) ↔
        f.required = true) ↔
    ∀ g ∈ earlier, g.wireName = f.wireName → g.required = false := by
  rw [← List.count_pos_iff, count_required_of_last hlast]
  constructor
  · rintro ⟨honce, hiff⟩ g hg hname
    by_contra hrequired
    have hearlier : 0 < ((earlier.filter (·.required)).map (·.wireName)).count f.wireName := by
      rw [List.count_pos_iff, mem_required_iff]
      exact ⟨g, hg, (Bool.not_eq_false _).mp hrequired, hname⟩
    have hf : f.required = true := hiff.mp (by omega)
    rw [if_pos hf] at honce
    omega
  · intro h
    rw [count_required_eq_zero h]
    cases f.required <;> simp

theorem nodup_required (hdistinct : (fs.map (·.wireName)).Nodup) :
    ((fs.filter (·.required)).map (·.wireName)).Nodup :=
  hdistinct.sublist (List.filter_sublist.map _)

end Schema

namespace Document

variable {index : Index} {name : String} {schema : Schema} {fs : List FieldRecord}

/-- The component of a record with fields. Every required name is a property, and every field has a
property. The property of a name is the schema of the last field of that name; the name is required
at most once, and exactly if this field may not be left out, if and only if every earlier field of
the name may be left out. So no name is required twice, and the required names are those of the
fields that may not be left out, wherever the names of the fields are distinct. -/
theorem required_agrees (index : Index) (info : Info) (es : List Endpoint)
    (hfields : index.fieldsOf name = .ok (some fs)) (hsome : fs ≠ [])
    (hschema : (name, schema) ∈ (ofEndpoints index info es).schemas) :
    ∃ properties, schema.properties = some properties ∧
      let required := schema.required.getD []
      (∀ wire ∈ required, wire ∈ properties.map (·.1)) ∧
      (∀ wire, wire ∈ properties.map (·.1) ↔ wire ∈ fs.map (·.wireName)) ∧
      (∀ earlier f later, fs = earlier ++ f :: later → (∀ g ∈ later, g.wireName ≠ f.wireName) →
        properties.lookup f.wireName = some (.ofField f) ∧
        ((required.count f.wireName ≤ 1 ∧
            (f.wireName ∈ required ↔ f.nullable = false ∧ f.hasDefault = false)) ↔
          ∀ g ∈ earlier, g.wireName = f.wireName → g.nullable = true ∨ g.hasDefault = true)) ∧
      ((fs.map (·.wireName)).Nodup → required.Nodup ∧
        ∀ f ∈ fs, properties.lookup f.wireName = some (.ofField f) ∧
          (f.wireName ∈ required ↔ f.nullable = false ∧ f.hasDefault = false)) := by
  obtain ⟨first, hfirst⟩ := List.exists_mem_of_ne_nil fs hsome
  have hcomponent : name ∈ (ofEndpoints index info es).schemas.map (·.1) :=
    List.mem_map.mpr ⟨_, hschema, rfl⟩
  obtain rfl :=
    (Lint.mem_schemas_ofEndpoints index info es hcomponent hfields hfirst schema).mp hschema
  refine ⟨_, rfl, ?_⟩
  have hrequired : (Schema.ofFields fs).required.getD [] =
      (fs.filter (·.required)).map (·.wireName) := Schema.requiredNames?_getD fs
  rw [hrequired]
  have hoptional (g : FieldRecord) :
      g.required = false ↔ g.nullable = true ∨ g.hasDefault = true := by
    rw [FieldRecord.required, Bool.and_eq_false_iff, Bool.not_eq_false', Bool.not_eq_false']
  have hagrees (earlier : List FieldRecord) (f : FieldRecord) (later : List FieldRecord)
      (hsplit : fs = earlier ++ f :: later) (hlast : ∀ g ∈ later, g.wireName ≠ f.wireName) :
      (((fs.filter (·.required)).map (·.wireName)).count f.wireName ≤ 1 ∧
        (f.wireName ∈ (fs.filter (·.required)).map (·.wireName) ↔
          f.nullable = false ∧ f.hasDefault = false)) ↔
      ∀ g ∈ earlier, g.wireName = f.wireName → g.nullable = true ∨ g.hasDefault = true := by
    have hiff := Schema.required_agrees_iff earlier hlast
    rw [← hsplit, FieldRecord.required_iff] at hiff
    simpa only [hoptional] using hiff
  refine ⟨fun wire hwire => ?_, fun wire => Schema.mem_properties_iff, ?_, ?_⟩
  · obtain ⟨f, hf, -, rfl⟩ := Schema.mem_required_iff.mp hwire
    exact Schema.mem_properties_iff.mpr (List.mem_map_of_mem hf)
  · intro earlier f later hsplit hlast
    refine ⟨?_, hagrees earlier f later hsplit hlast⟩
    rw [hsplit]
    exact Schema.lookup_properties_of_last earlier hlast
  · intro hdistinct
    refine ⟨Schema.nodup_required hdistinct, fun f hf => ?_⟩
    obtain ⟨earlier, later, hsplit⟩ := List.append_of_mem hf
    rw [hsplit, List.map_append, List.map_cons, List.nodup_append, List.nodup_cons] at hdistinct
    obtain ⟨-, ⟨hlater, -⟩, hearlier⟩ := hdistinct
    have hlast : ∀ g ∈ later, g.wireName ≠ f.wireName := by
      intro g hg hname
      exact hlater (hname ▸ List.mem_map_of_mem hg)
    have hother : ∀ g ∈ earlier, g.wireName = f.wireName →
        g.nullable = true ∨ g.hasDefault = true := by
      intro g hg hname
      exact absurd hname (hearlier _ (List.mem_map_of_mem hg) _ List.mem_cons_self)
    refine ⟨?_, ((hagrees earlier f later hsplit hlast).mpr hother).2⟩
    rw [hsplit]
    exact Schema.lookup_properties_of_last earlier hlast

/-- The component of a payload type with fields. -/
theorem ofFields_mem_schemas (index : Index) (info : Info) {es : List Endpoint}
    (hpayload : name ∈ Assembly.payloads es) {f : FieldRecord}
    (hfields : index.fieldsOf name = .ok (some (f :: fs))) :
    (name, .ofFields (f :: fs)) ∈ (ofEndpoints index info es).schemas :=
  (Lint.mem_schemas_ofEndpoints index info es (Lint.mem_schemas_of_payload index info hpayload)
    hfields List.mem_cons_self _).mpr rfl

/-- An optional field behind which a flattened record brings a field of the same name that may not
be left out, and that record by itself. -/
theorem required_agrees_shadowed :
    let id : Source.Field Expr := ⟨"id", .ofName "u32", []⟩
    let key : Source.RecordDecl Expr := { name := "Key", fields := [id] }
    let item : Source.RecordDecl Expr := { name := "Item", fields :=
      [⟨"id", .named {} "Option" true [.ofName "String"], []⟩,
        ⟨"key", .ofName "Key", [{ settings := [.flatten] }]⟩] }
    let index := Index.ofFiles [{ path := "lib.rs", items := [.record key [], .record item []] }]
    let es : List Endpoint :=
      [{ verb := .put, path := "/v1/items", requestType := "Key", responseType := "Item" }]
    let last := Index.fieldRecord {} {} id (.primitive .integer (some "int32")) false
    let document := ofEndpoints index defaultInfo es
    (∃ schema, ("Item", schema) ∈ document.schemas ∧
      (∃ properties, schema.properties = some properties ∧
        properties.lookup "id" = some (.ofField last)) ∧
      (schema.required.getD []).count "id" ≤ 1 ∧ "id" ∈ schema.required.getD []) ∧
    ∃ schema, ("Key", schema) ∈ document.schemas ∧ (schema.required.getD []).Nodup := by
  intro id key item index es last document
  let first := Index.fieldRecord {} {} ⟨"id", .named {} "Option" true [.ofName "String"], []⟩
    (.primitive .string none) true
  have hitem : index.fieldsOf "Item" = .ok (some [first, last]) := by rfl
  have hkey : index.fieldsOf "Key" = .ok (some [last]) := by rfl
  have hname : last.wireName = "id" := by decide +kernel
  have hitemSchema : ("Item", Schema.ofFields [first, last]) ∈ document.schemas :=
    ofFields_mem_schemas index defaultInfo (by decide) hitem
  have hkeySchema : ("Key", Schema.ofFields [last]) ∈ document.schemas :=
    ofFields_mem_schemas index defaultInfo (by decide) hkey
  refine ⟨⟨_, hitemSchema, ?_⟩, ⟨_, hkeySchema, ?_⟩⟩
  · obtain ⟨properties, hproperties, -, -, hlast, -⟩ :=
      required_agrees index defaultInfo es hitem (List.cons_ne_nil _ _) hitemSchema
    obtain ⟨hlookup, hagrees⟩ := hlast [first] last [] rfl nofun
    have hoptional : ∀ g ∈ [first], g.wireName = last.wireName →
        g.nullable = true ∨ g.hasDefault = true := by
      intro g hg _
      exact Or.inl (List.mem_singleton.mp hg ▸ rfl)
    obtain ⟨honce, hiff⟩ := hagrees.mpr hoptional
    rw [hname] at hlookup honce hiff
    exact ⟨⟨properties, hproperties, hlookup⟩, honce, hiff.mpr ⟨rfl, rfl⟩⟩
  · obtain ⟨_, -, -, -, -, hdistinct⟩ :=
      required_agrees index defaultInfo es hkey (List.cons_ne_nil _ _) hkeySchema
    exact (hdistinct (List.nodup_singleton _)).1

/-- Two required fields of one name, by a new name for one of them: the name is required twice. And
a required field behind which a flattened record brings an optional field of the same name: the name
is required, though its property is that of the optional field. -/
theorem required_of_shared_name :
    let optional : Source.TypeExpr := .named {} "Option" true [.ofName "String"]
    let item : Source.RecordDecl Expr := { name := "Item", fields :=
      [⟨"id", .ofName "u32", []⟩, ⟨"code", .ofName "u32", [{ settings := [.rename "id"] }]⟩] }
    let key : Source.RecordDecl Expr := { name := "Key", fields := [⟨"id", optional, []⟩] }
    let draft : Source.RecordDecl Expr := { name := "Draft", fields :=
      [⟨"id", .ofName "u32", []⟩, ⟨"key", .ofName "Key", [{ settings := [.flatten] }]⟩] }
    let index := Index.ofFiles
      [{ path := "lib.rs", items := [.record item [], .record key [], .record draft []] }]
    let es : List Endpoint :=
      [{ verb := .put, path := "/v1/items", requestType := "Draft", responseType := "Item" }]
    let document := ofEndpoints index defaultInfo es
    (∃ schema, ("Item", schema) ∈ document.schemas ∧ schema.required = some ["id", "id"]) ∧
    ∃ schema, ("Draft", schema) ∈ document.schemas ∧ schema.required = some ["id"] ∧
      ∃ f properties, f.nullable = true ∧ schema.properties = some properties ∧
        properties.lookup "id" = some (.ofField f) := by
  intro optional item key draft index es document
  let plain := Index.fieldRecord {} {} ⟨"id", .ofName "u32", []⟩
    (.primitive .integer (some "int32")) false
  let renamed := Index.fieldRecord {} { rename := some "id" }
    ⟨"code", .ofName "u32", [{ settings := [.rename "id"] }]⟩
    (.primitive .integer (some "int32")) false
  let inlined := Index.fieldRecord {} {} ⟨"id", optional, []⟩ (.primitive .string none) true
  have hitem : index.fieldsOf "Item" = .ok (some [plain, renamed]) := by rfl
  have hdraft : index.fieldsOf "Draft" = .ok (some [plain, inlined]) := by rfl
  have hitemSchema : ("Item", Schema.ofFields [plain, renamed]) ∈ document.schemas :=
    ofFields_mem_schemas index defaultInfo (by decide) hitem
  have hdraftSchema : ("Draft", Schema.ofFields [plain, inlined]) ∈ document.schemas :=
    ofFields_mem_schemas index defaultInfo (by decide) hdraft
  refine ⟨⟨_, hitemSchema, by decide +kernel⟩, ⟨_, hdraftSchema, by decide +kernel, ?_⟩⟩
  have hname : inlined.wireName = "id" := by decide +kernel
  have hlast : ∀ g ∈ ([] : List FieldRecord), g.wireName ≠ inlined.wireName := nofun
  refine ⟨inlined, _, rfl, rfl, ?_⟩
  rw [← hname]
  exact Schema.lookup_properties_of_last [plain] hlast

end Document

end RouteContract
