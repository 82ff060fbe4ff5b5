import RouteContract.Proofs.Document.Required
import RouteContract.Proofs.Schema.Inlining

/-!
What a flattened part requires. A flattened field stands for the records of the part that it refers
to, taken as they are: whether the field itself is optional is looked at by nobody. The names that
come only through such a field are therefore required by the whole exactly if the part by itself
requires them, and an optional part requires nothing if and only if it would require nothing anyway.
-/

namespace RouteContract

open Source (Index Expr)

namespace Source.Index

variable {index : Index} {depth : Nat} {part : String} {decl inner : RecordDecl Expr}
  {field : Field Expr} {descriptor : Descriptor} {nullable : Bool}

theorem rowsWithin_append {fields more : List (Field Expr)} {fs : List FieldRecord}
    (h : index.rowsWithin depth decl (fields ++ more) = .ok fs) :
    ∃ earlier later, index.rowsWithin depth decl fields = .ok earlier ∧
      index.rowsWithin depth decl more = .ok later ∧ fs = earlier ++ later := by
  induction fields generalizing fs with
  | nil => exact ⟨[], fs, rfl, h, rfl⟩
  | cons field fields ih =>
    obtain ⟨row, rest, hrow, hrest, rfl⟩ := rowsWithin_cons_eq_ok_iff.mp h
    obtain ⟨earlier, later, hearlier, hlater, rfl⟩ := ih hrest
    refine ⟨row ++ earlier, later, ?_, hlater, (List.append_assoc _ _ _).symm⟩
    exact rowsWithin_cons_eq_ok_iff.mpr ⟨row, earlier, hrow, hearlier, rfl⟩

/-- A flattened field that refers to a record of the sources gives what is found for that record one
level below. -/
theorem fieldRecords_of_flattened {container : WireSettings} {row : List FieldRecord}
    (hskip : (WireSettings.ofAttributes field.attributes).skip = false)
    (hflatten : (WireSettings.ofAttributes field.attributes).flatten = true)
    (hdescribe : index.describe field.type = .ok (descriptor, nullable))
    (hpart : descriptor.referenceName? = some part)
    (hinner : index.lookupType? part = some (.record inner)) :
    index.fieldRecords (index.inlining (depth + 1)) container field = .ok row ↔
      index.fieldsWithin depth part = .ok (some row) := by
  have hinlines : (WireSettings.ofAttributes field.attributes).inlines? descriptor = some part := by
    rw [WireSettings.inlines?, if_pos hflatten, hpart]
  constructor
  · intro h
    rcases fieldRecords_eq_ok h with ⟨hskipped, -⟩ |
      ⟨-, descriptor', nullable', hdescribe', ⟨name, hname, hfound⟩ | ⟨hplain, -⟩⟩
    · rw [hskip] at hskipped
      cases hskipped
    · rw [hdescribe] at hdescribe'
      cases hdescribe'
      rw [hinlines] at hname
      cases hname
      exact hfound
    · rw [hdescribe] at hdescribe'
      cases hdescribe'
      -- A record of the sources is never answered with nothing.
      have hnone : index.fieldsWithin depth part = .ok none := hplain part hinlines
      rw [fieldsWithin_of_record hinner] at hnone
      obtain ⟨rows, -, hsome⟩ := Except.bind_eq_ok hnone
      cases hsome
  · intro h
    refine fieldRecords_of_describe (some row) hskip hdescribe ?_
    rw [hinlines]
    exact h

/-- Records whose flattened fields do not reach the depth are found alike at every greater depth. -/
theorem fieldsOf_of_nestsWithin {fs : List FieldRecord} (hdepth : depth ≤ 8)
    (hinner : index.lookupType? part = some (.record inner))
    (hnests : index.NestsWithin depth inner) (h : index.fieldsWithin depth part = .ok (some fs)) :
    index.fieldsOf part = .ok (some fs) := by
  have hrows := (fieldsWithin_eq_ok_iff hinner).mp h
  have hfull := inFull_of_rowsWithin hnests (fun _ => id) hrows
  apply (fieldsWithin_eq_ok_iff hinner).mpr
  apply hfull.rowsWithin_eq _ fun _ => id
  intro chain hchain
  exact (hnests chain hchain).trans hdepth

end Source.Index

namespace Document

variable {index : Index} {name part : String} {schema : Schema}
  {fs earlier gs later : List FieldRecord}
  {decl inner : Source.RecordDecl Expr} {field : Source.Field Expr}
  {before after : List (Source.Field Expr)} {descriptor : Descriptor} {nullable : Bool}

/-- What the component of a record requires, also if the record has no fields. -/
theorem required_of_mem_schemas (index : Index) (info : Info) (es : List Endpoint)
    (hfields : index.fieldsOf name = .ok (some fs))
    (hschema : (name, schema) ∈ (ofEndpoints index info es).schemas) :
    schema.required.getD [] = (fs.filter (·.required)).map (·.wireName) := by
  cases fs with
  | nil =>
    obtain ⟨⟨found, component⟩, hmem, heq⟩ := List.mem_map.mp hschema
    cases heq
    have hnodup := (Assembly.ofEndpoints index es).sorted.nodup
    have hlookup := Assembly.faithful_ofEndpoints index es found component
      (Table.lookup_of_mem hnodup hmem)
    rw [Source.Index.fields?, hfields] at hlookup
    rw [Component.schema, hlookup]
    rfl
  | cons f rest =>
    have hcomponent : name ∈ (ofEndpoints index info es).schemas.map (·.1) :=
      List.mem_map.mpr ⟨_, hschema, rfl⟩
    obtain rfl := (Lint.mem_schemas_ofEndpoints index info es hcomponent hfields
      List.mem_cons_self schema).mp hschema
    exact Schema.requiredNames?_getD _

/-- The name comes only through the middle one of three groups of fields. -/
def OnlyThrough (earlier gs later : List FieldRecord) (wire : String) : Prop :=
  wire ∈ gs.map (·.wireName) ∧ wire ∉ earlier.map (·.wireName) ∧ wire ∉ later.map (·.wireName)

instance (earlier gs later : List FieldRecord) (wire : String) :
    Decidable (OnlyThrough earlier gs later wire) :=
  inferInstanceAs (Decidable (_ ∧ _ ∧ _))

/-- A name that comes only through some fields is required if and only if one of these may not be
left out. -/
theorem mem_required_of_onlyThrough {wire : String} (h : OnlyThrough earlier gs later wire) :
    wire ∈ ((earlier ++ gs ++ later).filter (·.required)).map (·.wireName) ↔
      ∃ g ∈ gs, g.wireName = wire ∧ g.nullable = false ∧ g.hasDefault = false := by
  obtain ⟨-, hearlier, hlater⟩ := h
  rw [Schema.mem_required_iff]
  constructor
  · rintro ⟨f, hf, hrequired, rfl⟩
    rw [List.append_assoc, List.mem_append, List.mem_append] at hf
    rcases hf with hf | hf | hf
    · exact absurd (List.mem_map_of_mem hf) hearlier
    · exact ⟨f, hf, rfl, f.required_iff.mp hrequired⟩
    · exact absurd (List.mem_map_of_mem hf) hlater
  · rintro ⟨g, hg, hname, hrequired⟩
    refine ⟨g, ?_, g.required_iff.mpr hrequired, hname⟩
    exact List.mem_append_left _ (List.mem_append_right _ hg)

/-- A record with a flattened field that refers to another record, its part. The field gives the
records of the part as they are, the same for every type with this descriptor, optional or not: the
fields that the part itself has, unless flattened fields nest more than seven deep in it. A name
that the component has only through this field is required if and only if a field of the part that
bears it may not be left out. So the field requires nothing if and only if no field of the part
would be required without it. -/
theorem required_of_flattened (index : Index) (info : Info) (es : List Endpoint)
    (hdecl : index.lookupType? name = some (.record decl))
    (hsplit : decl.fields = before ++ field :: after)
    (hskip : (WireSettings.ofAttributes field.attributes).skip = false)
    (hflatten : (WireSettings.ofAttributes field.attributes).flatten = true)
    (hdescribe : index.describe field.type = .ok (descriptor, nullable))
    (hpart : descriptor.referenceName? = some part)
    (hinner : index.lookupType? part = some (.record inner))
    (hfields : index.fieldsOf name = .ok (some fs))
    (hschema : (name, schema) ∈ (ofEndpoints index info es).schemas) :
    ∃ earlier gs later, fs = earlier ++ gs ++ later ∧
      index.rowsWithin 8 decl before = .ok earlier ∧
      index.rowsWithin 8 decl after = .ok later ∧
      (∀ type other, index.describe type = .ok (descriptor, other) →
        index.rowsWithin 8 decl [{ field with type }] = .ok gs) ∧
      (index.NestsWithin 7 inner → index.fieldsOf part = .ok (some gs)) ∧
      (∀ wire, OnlyThrough earlier gs later wire →
        (wire ∈ schema.required.getD [] ↔
          ∃ g ∈ gs, g.wireName = wire ∧ g.nullable = false ∧ g.hasDefault = false)) ∧
      ((∀ wire, OnlyThrough earlier gs later wire → wire ∉ schema.required.getD []) ↔
        ∀ g ∈ gs, OnlyThrough earlier gs later g.wireName →
          g.nullable = true ∨ g.hasDefault = true) := by
  have hrows : index.rowsWithin 8 decl (before ++ field :: after) = .ok fs :=
    hsplit ▸ (Source.Index.fieldsWithin_eq_ok_iff hdecl).mp hfields
  obtain ⟨earlier, rest, hearlier, hrest, rfl⟩ := Source.Index.rowsWithin_append hrows
  obtain ⟨gs, later, hgs, hlater, rfl⟩ := Source.Index.rowsWithin_cons_eq_ok_iff.mp hrest
  rw [← List.append_assoc] at hfields ⊢
  have hfound : index.fieldsWithin 7 part = .ok (some gs) :=
    (Source.Index.fieldRecords_of_flattened hskip hflatten hdescribe hpart hinner).mp hgs
  have hrequired (wire : String) (honly : OnlyThrough earlier gs later wire) :
      wire ∈ schema.required.getD [] ↔
        ∃ g ∈ gs, g.wireName = wire ∧ g.nullable = false ∧ g.hasDefault = false := by
    rw [required_of_mem_schemas index info es hfields hschema]
    exact mem_required_of_onlyThrough honly
  refine ⟨earlier, gs, later, rfl, hearlier, hlater, ?_, ?_, hrequired, ?_⟩
  · intro type other hother
    let retyped : Source.Field Expr := { field with type }
    have hskip' : (WireSettings.ofAttributes retyped.attributes).skip = false := hskip
    apply Source.Index.rowsWithin_cons_eq_ok_iff.mpr
    refine ⟨gs, [], ?_, rfl, (List.append_nil gs).symm⟩
    exact (Source.Index.fieldRecords_of_flattened hskip' hflatten hother hpart hinner).mpr hfound
  · intro hnests
    exact Source.Index.fieldsOf_of_nestsWithin (by decide) hinner hnests hfound
  · constructor
    · intro hnothing g hg honly
      by_contra hneither
      rw [not_or, Bool.not_eq_true, Bool.not_eq_true] at hneither
      exact hnothing g.wireName honly ((hrequired _ honly).mpr ⟨g, hg, rfl, hneither⟩)
    · intro hoptional wire honly hwire
      obtain ⟨g, hg, rfl, hnullable, hdefault⟩ := (hrequired wire honly).mp hwire
      rcases hoptional g hg honly with h | h
      · rw [hnullable] at h
        cases h
      · rw [hdefault] at h
        cases h

/-- An optional part with a field that may be left out and one that may not. -/
theorem required_of_flattened_page :
    let optional (type : Source.TypeExpr) : Source.TypeExpr := .named {} "Option" true [type]
    let extent : Source.RecordDecl Expr := { name := "Extent", fields :=
      [⟨"page_count", .ofName "u32", []⟩, ⟨"note", optional (.ofName "String"), []⟩] }
    let field : Source.Field Expr :=
      ⟨"extent", optional (.named {} "Box" true [.ofName "Extent"]), [{ settings := [.flatten] }]⟩
    let page : Source.RecordDecl Expr :=
      { name := "Page", fields := [⟨"title", .ofName "String", []⟩, field] }
    let index := Index.ofFiles
      [{ path := "lib.rs", items := [.record page [], .record extent []] }]
    let es : List Endpoint :=
      [{ verb := .put, path := "/v1/pages", requestType := "Page", responseType := "Extent" }]
    index.describe field.type = .ok (.reference "Extent", true) ∧
    ∃ schema, ("Page", schema) ∈ (ofEndpoints index defaultInfo es).schemas ∧
      "pageCount" ∈ schema.required.getD [] ∧ "note" ∉ schema.required.getD [] := by
  intro optional extent field page index es
  have hdescribe : index.describe field.type = .ok (.reference "Extent", true) := by rfl
  let title := Index.fieldRecord {} {} ⟨"title", .ofName "String", []⟩
    (.primitive .string none) false
  let count := Index.fieldRecord {} {} ⟨"page_count", .ofName "u32", []⟩
    (.primitive .integer (some "int32")) false
  let note := Index.fieldRecord {} {} ⟨"note", optional (.ofName "String"), []⟩
    (.primitive .string none) true
  have hfields : index.fieldsOf "Page" = .ok (some [title, count, note]) := by rfl
  have hschema := ofFields_mem_schemas index defaultInfo
    (show "Page" ∈ Assembly.payloads es by decide) hfields
  obtain ⟨earlier, gs, later, hsplit, hearlier, hlater, -, -, hrequired, -⟩ :=
    required_of_flattened index defaultInfo es
      (show index.lookupType? "Page" = some (.record page) from rfl)
      (show page.fields = [⟨"title", .ofName "String", []⟩] ++ field :: [] from rfl)
      rfl rfl hdescribe rfl (show index.lookupType? "Extent" = some (.record extent) from rfl)
      hfields hschema
  cases hearlier
  cases hlater
  have hgs : [title, count, note] = title :: gs := hsplit.trans (List.append_nil _)
  cases hgs
  refine ⟨hdescribe, _, hschema, ?_, ?_⟩
  · rw [hrequired "pageCount" (by decide +kernel)]
    decide +kernel
  · rw [hrequired "note" (by decide +kernel)]
    decide +kernel

/-- An optional part with a field that may not be left out: the name of the field comes only through
the part, and it is required all the same. -/
theorem required_of_optional_part :
    let extent : Source.RecordDecl Expr :=
      { name := "Extent", fields := [⟨"page_count", .ofName "u32", []⟩] }
    let field : Source.Field Expr := ⟨"extent", .named {} "Option" true [.ofName "Extent"],
      [{ settings := [.flatten] }]⟩
    let page : Source.RecordDecl Expr := { name := "Page", fields := [field] }
    let index := Index.ofFiles
      [{ path := "lib.rs", items := [.record page [], .record extent []] }]
    let es : List Endpoint :=
      [{ verb := .put, path := "/v1/pages", requestType := "Page", responseType := "Page" }]
    index.lookupType? "Page" = some (.record page) ∧
    index.lookupType? "Extent" = some (.record extent) ∧
    index.describe field.type = .ok (.reference "Extent", true) ∧
    ∃ schema, ("Page", schema) ∈ (ofEndpoints index defaultInfo es).schemas ∧
      schema.properties.map (·.map (·.1)) = some ["pageCount"] ∧
      schema.required = some ["pageCount"] := by
  intro extent field page index es
  refine ⟨rfl, rfl, by rfl, ?_⟩
  let count := Index.fieldRecord {} {} ⟨"page_count", .ofName "u32", []⟩
    (.primitive .integer (some "int32")) false
  have hfields : index.fieldsOf "Page" = .ok (some [count]) := by rfl
  exact ⟨_, ofFields_mem_schemas index defaultInfo (by decide) hfields,
    by decide +kernel, by decide +kernel⟩

end Document

end RouteContract
