import RouteContract.Proofs.Document.Operations
import RouteContract.Proofs.Lint.Findings
import RouteContract.Proofs.Lint.Operations

/-!
What the recommended rules find in the document of endpoints. The path items of a document are
looked at verb by verb, which visits every operation once, so the findings about operations are
those about the emitted endpoints. All others come from the paths themselves and from the
components.
-/

namespace RouteContract.Lint

open Source (Index)
open Document (UnderVerbs operations emitted placed)

/-- Looking at a path item verb by verb visits every operation once. -/
theorem itemFindings_toJson (o : Options) (path : String) {item : PathItem}
    (hverbs : ∀ key ∈ item.operations.map (·.1), ∃ v : Verb, key = v.key) :
    (o.itemFindings path item.toJson).Perm
      (item.operations.flatMap fun entry => o.operationFindings entry.1 path entry.2.toJson) := by
  have hkeys : item.operations.map (·.1) ⊆ methodKeys := by
    intro key hkey
    obtain ⟨v, rfl⟩ := hverbs key hkey
    cases v <;> decide
  have hvisit := Table.flatMap_lookup_perm
    (fun method (operation : Operation) => o.operationFindings method path operation.toJson)
    (show methodKeys.Nodup by decide) item.sorted.nodup hkeys
  refine List.Perm.trans (List.Perm.of_eq ?_) hvisit
  apply List.flatMap_congr
  intro method _
  rw [PathItem.toJson, Json.get?_ofTable]
  cases item.operations.lookup method <;> rfl

theorem mem_pathsFindings {o : Options} {root : Json} {requirePaths : Bool} {f : Finding}
    (h : f ∈ o.pathsFindings root requirePaths) :
    f.isOperational ∨ (∃ path, f = .unversionedPath path ∨ f = .genericPath path) ∨
      f = .noPaths := by
  rw [pathsFindings_eq, List.mem_append] at h
  rcases h with hnone | hentry
  · split at hnone
    · exact Or.inr (Or.inr (List.mem_singleton.mp hnone))
    · cases hnone
  · obtain ⟨entry, -, hfound⟩ := List.mem_flatMap.mp hentry
    rcases List.mem_append.mp hfound with hpath | hitem
    · exact Or.inr (Or.inl ⟨entry.1, mem_pathFindings hpath⟩)
    · exact Or.inl (subject_of_mem_itemFindings hitem).1

theorem mem_schemaFindings {o : Options} {schemas : List (String × Json)} {f : Finding}
    (h : f ∈ schemas.flatMap o.schemaFindings) :
    ∃ property schema, f = .undescribed property schema := by
  obtain ⟨schema, -, hschema⟩ := List.mem_flatMap.mp h
  obtain ⟨property, -, rfl⟩ := List.mem_map.mp hschema
  exact ⟨property.1, schema.1, rfl⟩

theorem pathsOf_toJson (d : Document) : pathsOf d.toJson =
    d.paths.map fun entry => (entry.1, entry.2.toJson) := by
  rw [pathsOf, Document.get?_paths]
  rfl

/-- The findings about the operations of a document, one operation after the other. -/
theorem filter_pathsFindings (o : Options) {d : Document} (hverbs : UnderVerbs d.paths) :
    ((o.pathsFindings d.toJson true).filter (·.isOperational)).Perm
      ((operations d.paths).flatMap fun placed =>
        o.operationFindings placed.2.1 placed.1 placed.2.2.toJson) := by
  have hnone : (if (pathsOf d.toJson).isEmpty && true then [Finding.noPaths] else []).filter
      (·.isOperational) = [] := by
    split <;> rfl
  rw [pathsFindings_eq, List.filter_append, hnone, List.nil_append, pathsOf_toJson,
    List.flatMap_map, List.filter_flatMap, operations, List.flatMap_assoc]
  apply List.Perm.flatMap_left
  intro entry hentry
  have hpath : (o.pathFindings entry.1).filter (·.isOperational) = [] := by
    apply List.filter_eq_nil_iff.mpr
    intro f hf
    rcases mem_pathFindings hf with rfl | rfl <;> exact Bool.false_ne_true
  have hitem : (o.itemFindings entry.1 entry.2.toJson).filter (·.isOperational) =
      o.itemFindings entry.1 entry.2.toJson :=
    List.filter_eq_self.mpr fun f hf => (subject_of_mem_itemFindings hf).1
  rw [Options.entryFindings, List.filter_append, hpath, hitem, List.nil_append, List.flatMap_map]
  exact itemFindings_toJson o entry.1 (hverbs entry hentry)

theorem noPaths_mem_pathsFindings (o : Options) (d : Document) :
    .noPaths ∈ o.pathsFindings d.toJson true ↔ d.paths = [] := by
  rw [noPaths_mem_pathsFindings_iff, pathsOf_toJson, List.map_eq_nil_iff, and_iff_left rfl]

theorem pathsOf_eq_nil_iff (a : Assembly) (es : List Endpoint) :
    Document.pathsOf a es = [] ↔ es = [] := by
  constructor
  · intro h
    cases es with
    | nil => rfl
    | cons e es =>
        have hperm := Document.operations_pathsOf a (e :: es)
        rw [h] at hperm
        simp [operations, emitted, Document.emittedAfter] at hperm
  · rintro rfl
    rfl

/-- The findings about the operations of emitted endpoints. -/
theorem flatMap_operationFindings (a : Assembly) (es : List Endpoint) :
    ((operations (Document.pathsOf a es)).flatMap fun placed =>
      Options.recommended.operationFindings placed.2.1 placed.1 placed.2.2.toJson).Perm
      ((emitted es).flatMap bodilessFindings) := by
  refine ((Document.operations_pathsOf a es).flatMap_right _).trans ?_
  rw [List.flatMap_map]
  apply List.Perm.flatMap_left
  intro e _
  exact operationFindings_ofEndpoint _ e

/-- What the recommended rules can object to in the document of endpoints. About operations there is
one finding for each response that an emitted endpoint declares without a type, unless it is a
problem. All other findings are about a path or a sensitive property, or there are no endpoints. -/
theorem lint_generated (index : Index) (info : Info) (es : List Endpoint) (source : String) :
    let document := (Document.ofEndpoints index info es).toJson
    let found := Options.recommended.findings document true
    Options.recommended.lint source document true = found.map (Finding.message source) ∧
    (found.filter (·.isOperational)).Perm ((emitted es).flatMap bodilessFindings) ∧
    (∀ f ∈ found, (∃ place, f = .contentMissing place) ∨
      (∃ path, f = .unversionedPath path ∨ f = .genericPath path) ∨
      (∃ property schema, f = .undescribed property schema) ∨ f = .noPaths) ∧
    (.noPaths ∈ found ↔ es = []) := by
  intro document found
  have hfound : found = Options.recommended.pathsFindings document true ++
      (schemasOf document).flatMap Options.recommended.schemaFindings :=
    findings_of_version _ true (Document.get?_version _)
  have hverbs := Document.underVerbs_pathsOf (Assembly.ofEndpoints index es) es
  have hschemas : ((schemasOf document).flatMap Options.recommended.schemaFindings).filter
      (·.isOperational) = [] := by
    apply List.filter_eq_nil_iff.mpr
    intro f hf
    obtain ⟨property, schema, rfl⟩ := mem_schemaFindings hf
    exact Bool.false_ne_true
  have hoperations : (found.filter (·.isOperational)).Perm
      ((emitted es).flatMap bodilessFindings) := by
    rw [hfound, List.filter_append, hschemas, List.append_nil]
    exact (filter_pathsFindings _ hverbs).trans (flatMap_operationFindings _ es)
  refine ⟨rfl, hoperations, ?_, ?_⟩
  · intro f hmem
    have hf := hmem
    rw [hfound, List.mem_append] at hf
    rcases hf with hf | hf
    · rcases mem_pathsFindings hf with hoperation | hpath | hnone
      · have hbodiless := hoperations.mem_iff.mp (List.mem_filter.mpr ⟨hmem, hoperation⟩)
        obtain ⟨e, -, he⟩ := List.mem_flatMap.mp hbodiless
        obtain ⟨entry, -, rfl⟩ := List.mem_map.mp he
        exact Or.inl ⟨_, rfl⟩
      · exact Or.inr (Or.inl hpath)
      · exact Or.inr (Or.inr (Or.inr hnone))
    · exact Or.inr (Or.inr (Or.inl (mem_schemaFindings hf)))
  · have hpaths := noPaths_mem_pathsFindings Options.recommended
      (Document.ofEndpoints index info es)
    rw [hfound, List.mem_append, hpaths, ← pathsOf_eq_nil_iff (Assembly.ofEndpoints index es) es]
    refine or_iff_left ?_
    intro hf
    obtain ⟨property, schema, heq⟩ := mem_schemaFindings hf
    cases heq

/-- An endpoint that declares one response without content, and one that is a problem. -/
theorem lint_generated_removal :
    let e : Endpoint :=
      { verb := .delete, path := "/v1/items", requestType := "Removal", responseType := "Done"
        responses := [(204, ⟨none, "application/json"⟩), (404, ⟨none, "application/problem+json"⟩)]
        sorted := by decide }
    let document := (Document.ofEndpoints (.ofFiles []) Document.defaultInfo [e]).toJson
    let operational := (Options.recommended.findings document true).filter (·.isOperational)
    operational.map (Finding.message "items") =
      ["items: content required for delete /v1/items response 204"] ∧
    "items: content required for delete /v1/items response 204" ∈
      Options.recommended.lint "items" document true := by
  intro e document operational
  obtain ⟨hmessages, hperm, -⟩ := lint_generated (.ofFiles []) Document.defaultInfo [e] "items"
  have hbodiless : (emitted [e]).flatMap bodilessFindings =
      [.contentMissing (.response "delete" "/v1/items" "204")] := by
    decide
  rw [hbodiless] at hperm
  have hoperational : operational = [.contentMissing (.response "delete" "/v1/items" "204")] :=
    List.perm_singleton.mp hperm
  refine ⟨by rw [hoperational]; rfl, ?_⟩
  rw [hmessages]
  exact List.mem_map_of_mem (List.mem_of_mem_filter (hoperational ▸ List.mem_singleton_self _))

end RouteContract.Lint
