import RouteContract.Document.SourceText
import RouteContract.Proofs.Document.References
import RouteContract.Proofs.Schema.Reachability

/-!
The endpoints that a source text lists are the operations of its document. The listing and the paths
of the document are built apart, one under the names of verbs and the other under their keys. Both
orders agree, so that every endpoint changes the two tables alike: a new place adds its verb to
both, and a place that is there changes neither.
-/

namespace RouteContract

open Source (Index)

theorem Verb.key_toUpper (v : Verb) : v.key.toUpper = v.name := by
  cases v <;> decide +kernel

/-- Verbs are in the same order by their names and by their keys. -/
theorem Verb.name_lt_name_iff (v w : Verb) : v.name < w.name ↔ v.key < w.key := by
  cases v <;> cases w <;> decide

theorem Verb.name_injective : Function.Injective Verb.name := by
  intro v w h
  revert h
  cases v <;> cases w <;> decide

namespace Document

variable {a : Assembly} {paths : Table String PathItem} {e : Endpoint} {item : PathItem}

/-- The verbs of a path item. -/
def verbsOf (item : PathItem) : Table String Unit :=
  item.operations.map fun entry => (entry.1.toUpper, ())

/-- The verbs of every path, as the listing of endpoints keeps them. -/
def verbTable (paths : Table String PathItem) : Table String (Table String Unit) :=
  paths.map fun entry => (entry.1, verbsOf entry.2)

theorem lookup_verbTable (paths : Table String PathItem) (path : String) :
    (verbTable paths).lookup path = (paths.lookup path).map verbsOf :=
  Table.lookup_map_snd verbsOf paths path

theorem sorted_verbTable (h : paths.Sorted) : (verbTable paths).Sorted :=
  Table.sorted_map.mpr h

theorem verbsOf_insert (hverbs : ∀ key ∈ item.operations.map (·.1), ∃ v : Verb, key = v.key)
    (v : Verb) (operation : Operation) :
    verbsOf (item.insert v.key operation) = Table.insert v.name () (verbsOf item) := by
  rw [verbsOf, PathItem.insert, Table.map_insert String.toUpper (fun _ => ()) operation,
    Verb.key_toUpper, verbsOf]
  · intro key hkey
    obtain ⟨w, rfl⟩ := hverbs key hkey
    rw [Verb.key_toUpper, Verb.key_toUpper, Verb.name_lt_name_iff]
  · intro key hkey
    obtain ⟨w, rfl⟩ := hverbs key hkey
    rw [Verb.key_toUpper, Verb.key_toUpper, Verb.name_injective.eq_iff, Verb.key_injective.eq_iff]

theorem sorted_verbsOf (hverbs : ∀ key ∈ item.operations.map (·.1), ∃ v : Verb, key = v.key) :
    (verbsOf item).Sorted := by
  have hsorted := item.sorted
  rw [Table.Sorted, List.pairwise_map] at hsorted
  rw [Table.Sorted, verbsOf, List.map_map, List.pairwise_map]
  refine hsorted.imp_of_mem ?_
  intro x y hx hy hlt
  obtain ⟨v, hv⟩ := hverbs x.1 (List.mem_map_of_mem hx)
  obtain ⟨w, hw⟩ := hverbs y.1 (List.mem_map_of_mem hy)
  simp only [Function.comp_apply, hv, hw, Verb.key_toUpper, Verb.name_lt_name_iff]
  rwa [← hv, ← hw]

theorem lookup_verbsOf {v : Verb} (h : (item.operations.lookup v.key).isSome) :
    (verbsOf item).lookup v.name = some () := by
  have hmem : v.name ∈ (verbsOf item).map (·.1) := by
    obtain ⟨operation, hoperation⟩ := Option.isSome_iff_exists.mp h
    refine List.mem_map.mpr ⟨(v.name, ()), List.mem_map.mpr ?_, rfl⟩
    exact ⟨_, Table.mem_of_lookup hoperation, by rw [Verb.key_toUpper]⟩
  obtain ⟨_, hfound⟩ := Option.isSome_iff_exists.mp (Table.lookup_isSome_iff.mpr hmem)
  exact hfound

/-- An endpoint changes the listing of verbs as it changes the paths. -/
theorem verbTable_addEndpoint (hsorted : paths.Sorted) (hverbs : UnderVerbs paths) (a : Assembly)
    (e : Endpoint) :
    verbTable (addEndpoint a paths e) =
      (verbTable paths).insert e.path (Table.insert e.verb.name ()
        (((verbTable paths).lookup e.path).getD [])) := by
  have hkeys := hverbs.lookup e.path
  have hitem : ((verbTable paths).lookup e.path).getD [] =
      verbsOf ((paths.lookup e.path).getD {}) := by
    rw [lookup_verbTable]
    cases paths.lookup e.path <;> rfl
  rw [hitem]
  by_cases hold : hasOperation paths e.path e.verb.key
  · have hverb := (sorted_verbsOf hkeys).insert_of_lookup_eq (lookup_verbsOf hold)
    have hpath : (verbTable paths).lookup e.path =
        some (verbsOf ((paths.lookup e.path).getD {})) := by
      rw [lookup_verbTable]
      cases hlookup : paths.lookup e.path with
      | none => simp [hasOperation, hlookup] at hold
      | some item => rfl
    rw [addEndpoint_of_hasOperation hold, hverb,
      (sorted_verbTable hsorted).insert_of_lookup_eq hpath]
  · rw [addEndpoint_of_new hold, ← verbsOf_insert hkeys]
    exact Table.map_insert id verbsOf _ (fun _ _ => Iff.rfl) (fun _ _ => Iff.rfl)

theorem verbTable_foldl (a : Assembly) (es : List Endpoint) (hsorted : paths.Sorted)
    (hverbs : UnderVerbs paths) :
    verbTable (es.foldl (addEndpoint a) paths) =
      es.foldl (fun (t : Table String (Table String Unit)) (e : Endpoint) =>
        t.insert e.path (Table.insert e.verb.name () ((t.lookup e.path).getD [])))
        (verbTable paths) := by
  induction es generalizing paths with
  | nil => rfl
  | cons e es ih =>
      rw [List.foldl_cons, List.foldl_cons,
        ih (sorted_addEndpoint a paths e hsorted) (hverbs.addEndpoint a e),
        verbTable_addEndpoint hsorted hverbs]

/-- The listing of endpoints is that of the operations of their document, in the same order. -/
theorem listing_eq_operations (a : Assembly) (es : List Endpoint) :
    SourceText.listing es =
      (operations (pathsOf a es)).map fun placed => (placed.1, placed.2.1.toUpper) := by
  have htable : SourceText.verbsByPath es = verbTable (pathsOf a es) :=
    (verbTable_foldl a es Table.sorted_nil underVerbs_nil).symm
  rw [SourceText.listing, htable, verbTable, List.flatMap_map, operations, List.map_flatMap]
  simp only [verbsOf, List.map_map]
  rfl

end Document

namespace Generated

open Document

/-- Endpoints are described unless the fields of a type that they need cannot be followed. The
document then has an operation under a path and a key exactly if some endpoint has that path and
verb, and it is the operation of the first such endpoint; no path is without operations; and the
source text counts and lists the operations of the document in their order, each by its verb in
upper case and its path. -/
theorem listing_exact (index : Index) (info : Info) (es : List Endpoint) :
    BreaksDown index info es ∨
    ∃ g, ofEndpoints index info es = .ok g ∧
      (∀ path key, operation? g.document.paths path key =
        (es.find? fun e => e.path = path ∧ e.verb.key = key).map fun e =>
          Operation.ofEndpoint (index.fields? e.requestType) e) ∧
      (∀ entry ∈ g.document.paths, entry.2.operations ≠ []) ∧
      SourceText.render g.document.toJson es =
        "// @generated by openapi-from-routes. Do not edit.\n\n" ++
        "pub const YAML: &str = " ++
        SourceText.rawString (Yaml.render g.document.toJson) ++ ";\n\n" ++
        "pub const ENDPOINT_COUNT: usize = " ++
        toString (operations g.document.paths).length ++ ";\n\n" ++
        "pub const ENDPOINTS: &[(&str, &str)] = &[\n" ++
        String.join ((operations g.document.paths).map fun placed =>
          "    (" ++ Text.quoted placed.2.1.toUpper ++ ", " ++ Text.quoted placed.1 ++ "),\n") ++
        "];\n" := by
  refine (ofEndpoints_cases index info es).imp_right ?_
  rintro ⟨g, hg, hdocument⟩
  have hpaths : g.document.paths = pathsOf (Assembly.ofEndpoints index es) es := by
    rw [hdocument]
    rfl
  refine ⟨g, hg, ?_⟩
  rw [hpaths]
  refine ⟨?_, items_ne_nil_pathsOf _ es, ?_⟩
  · intro path key
    rw [operation?_pathsOf]
    cases hfirst : es.find? fun e => e.path = path ∧ e.verb.key = key with
    | none => rfl
    | some e =>
        have he : e ∈ es := List.mem_of_find?_eq_some hfirst
        rw [Option.map_some, Option.map_some, Assembly.fieldsOf?_requestType index he]
  · have hlisting := listing_eq_operations (Assembly.ofEndpoints index es) es
    have hlines : (SourceText.listing es).map SourceText.listingLine =
        (operations (pathsOf (Assembly.ofEndpoints index es) es)).map fun placed =>
          "    (" ++ Text.quoted placed.2.1.toUpper ++ ", " ++ Text.quoted placed.1 ++ "),\n" := by
      rw [hlisting, List.map_map]
      rfl
    have hcount : (SourceText.listing es).length =
        (operations (pathsOf (Assembly.ofEndpoints index es) es)).length := by
      rw [hlisting, List.length_map]
    unfold SourceText.render SourceText.ofYaml
    dsimp only
    rw [hlines, hcount]

/-- Two endpoints of one path, the first of them registered once more at the end. -/
theorem listing_exact_items :
    let add : Endpoint :=
      { verb := .post, path := "/v1/items", requestType := "NewItem", responseType := "Item" }
    let list : Endpoint :=
      { verb := .get, path := "/v1/items", requestType := "ListItems", responseType := "Items" }
    ∃ g, ofEndpoints (.ofFiles []) defaultInfo [add, list, add] = .ok g ∧
      SourceText.render g.document.toJson [add, list, add] =
        "// @generated by openapi-from-routes. Do not edit.\n\npub const YAML: &str = " ++
        SourceText.rawString (Yaml.render g.document.toJson) ++
        ";\n\npub const ENDPOINT_COUNT: usize = 2;\n\n" ++
        "pub const ENDPOINTS: &[(&str, &str)] = &[\n" ++
        "    (\"GET\", \"/v1/items\"),\n    (\"POST\", \"/v1/items\"),\n];\n" := by
  intro add list
  rcases listing_exact (.ofFiles []) defaultInfo [add, list, add] with
    ⟨name, -, b, hname, -⟩ | ⟨g, hg, -, -, hrender⟩
  · rw [Index.fieldsOf_of_lookupType?_eq_none rfl] at hname
    cases hname
  · refine ⟨g, hg, ?_⟩
    have hplaces : (operations g.document.paths).map (fun placed =>
        (placed.1, placed.2.1.toUpper)) = [("/v1/items", "GET"), ("/v1/items", "POST")] := by
      rw [document_of_eq_ok hg]
      refine (listing_eq_operations _ [add, list, add]).symm.trans ?_
      decide
    have hlines : (operations g.document.paths).map (fun placed =>
          "    (" ++ Text.quoted placed.2.1.toUpper ++ ", " ++ Text.quoted placed.1 ++ "),\n") =
        ["    (\"GET\", \"/v1/items\"),\n", "    (\"POST\", \"/v1/items\"),\n"] := by
      have hprinted := congrArg (List.map SourceText.listingLine) hplaces
      rw [List.map_map] at hprinted
      exact hprinted.trans (by decide +kernel)
    have hcount : (operations g.document.paths).length = 2 := by
      rw [← List.length_map, hplaces]
      rfl
    rw [hrender, hlines, hcount]
    simp only [String.append_assoc]
    rw [← String.append_assoc]
    refine congrArg₂ (· ++ ·) ?_ (congrArg (SourceText.rawString _ ++ ·) ?_)
    · decide +kernel
    · decide +kernel

end Generated

end RouteContract
