import RouteContract.Proofs.Document.References
import RouteContract.Proofs.Schema.Reachability

/-!
The order of endpoints does not show in their document. The components are the payload types and
what can be reached from them, and the operation of a place is that of its one endpoint; neither
says anything about an order. Only the role under which a payload type is met first does, and a role
shows in the description of a type that has no fields and in nothing else.
-/

namespace RouteContract

open Source (Index)

namespace Assembly

variable {index : Index} {es es' : List Endpoint} {name : String}

theorem payloads_perm (h : es.Perm es') : (payloads es).Perm (payloads es') :=
  h.flatMap_right _

theorem searchRoots_perm (index : Index) (h : es.Perm es') :
    (searchRoots index es).Perm (searchRoots index es') :=
  (h.flatMap_right _).append ((payloads_perm h).flatMap_right _)

theorem reachable_perm (h : es.Perm es') :
    Reachable index (searchRoots index es) name ↔ Reachable index (searchRoots index es') name :=
  ⟨fun hreach => hreach.mono (searchRoots_perm index h).subset,
    fun hreach => hreach.mono (searchRoots_perm index h).symm.subset⟩

theorem mem_consulted_perm (h : es.Perm es') :
    name ∈ (ofEndpoints index es).consulted ↔ name ∈ (ofEndpoints index es').consulted := by
  rw [mem_consulted_ofEndpoints, mem_consulted_ofEndpoints, (payloads_perm h).mem_iff,
    reachable_perm h]

theorem breakdown?_isSome_iff {a : Assembly} :
    (a.breakdown? index).isSome ↔ ∃ name ∈ a.consulted, ∃ b, index.fieldsOf name = .error b := by
  rw [breakdown?, List.findSome?_isSome_iff]
  refine exists_congr fun name => and_congr_right fun _ => ?_
  cases index.fieldsOf name <;> simp

theorem breakdown?_perm (index : Index) (h : es.Perm es') :
    ((ofEndpoints index es).breakdown? index).isSome ↔
      ((ofEndpoints index es').breakdown? index).isSome := by
  rw [breakdown?_isSome_iff, breakdown?_isSome_iff]
  simp only [mem_consulted_perm h]

/-- In whatever order endpoints are given, a name is the same component but for its role, and that
differs only for a type that is used both for requests and for responses. -/
theorem component?_perm (index : Index) (h : es.Perm es') (name : String) :
    (ofEndpoints index es).component? name = (ofEndpoints index es').component? name ∨
      ∃ role role', (ofEndpoints index es).component? name = some ⟨role, index.fields? name⟩ ∧
        (ofEndpoints index es').component? name = some ⟨role', index.fields? name⟩ ∧
        (∃ e ∈ es, e.requestType = name) ∧ ∃ e ∈ es, e.responseType = name := by
  have hpayload : (payloadRole? es name).isSome ↔ (payloadRole? es' name).isSome := by
    rw [payloadRole?_isSome_iff, payloadRole?_isSome_iff, (payloads_perm h).mem_iff]
  cases hrole : payloadRole? es name with
  | none =>
      have hrole' : payloadRole? es' name = none := by
        rw [hrole] at hpayload
        exact Option.not_isSome_iff_eq_none.mp fun hsome => absurd (hpayload.mpr hsome) nofun
      refine Or.inl (Option.ext fun component => ?_)
      rw [component?_of_not_payload hrole, component?_of_not_payload hrole', reachable_perm h]
  | some role =>
      obtain ⟨role', hrole'⟩ := Option.isSome_iff_exists.mp (hpayload.mp (by rw [hrole]; rfl))
      have hcomponent := component?_of_payloadRole? index hrole
      have hcomponent' := component?_of_payloadRole? index hrole'
      by_cases hsame : role = role'
      · rw [hcomponent, hcomponent', hsame]
        exact Or.inl rfl
      · refine Or.inr ⟨role, role', hcomponent, hcomponent', ?_⟩
        have hmoved {P : Endpoint → Prop} (hexists : ∃ e ∈ es', P e) : ∃ e ∈ es, P e := by
          obtain ⟨e, he, hP⟩ := hexists
          exact ⟨e, h.mem_iff.mpr he, hP⟩
        rcases exists_of_payloadRole? hrole with ⟨rfl, hrequest⟩ | ⟨rfl, hresponse⟩
        · rcases exists_of_payloadRole? hrole' with ⟨rfl, -⟩ | ⟨rfl, hresponse⟩
          · exact absurd rfl hsame
          · exact ⟨hrequest, hmoved hresponse⟩
        · rcases exists_of_payloadRole? hrole' with ⟨rfl, hrequest⟩ | ⟨rfl, -⟩
          · exact ⟨hmoved hrequest, hresponse⟩
          · exact absurd rfl hsame

end Assembly

/-- Whether a type is used both for requests and for responses and has no fields in the sources. -/
def isRoleDependent (index : Index) (es : List Endpoint) (name : String) : Bool :=
  es.any (·.requestType == name) && es.any (·.responseType == name) &&
    ((index.fields? name).getD []).isEmpty

/-- A schema without its description. -/
def Schema.undescribed (s : Schema) : Schema := { s with description := none }

/-- A role shows in the description of a type without fields only. -/
theorem Component.schema_of_role (role role' : Role) (fields : Option (List FieldRecord)) :
    (⟨role, fields⟩ : Component).schema = (⟨role', fields⟩ : Component).schema ∨
      fields.getD [] = [] ∧ (⟨role, fields⟩ : Component).schema.undescribed =
        (⟨role', fields⟩ : Component).schema.undescribed := by
  rcases fields with _ | _ | ⟨f, fs⟩
  · exact Or.inr ⟨rfl, rfl⟩
  · exact Or.inr ⟨rfl, rfl⟩
  · exact Or.inl rfl

theorem Schema.hasDistinctNames_undescribed {s : Schema} (h : s.hasDistinctNames) :
    s.undescribed.hasDistinctNames := by
  rwa [hasDistinctNames_iff] at h ⊢

/-- A table of schemas without the descriptions of some names. -/
def SchemaTable.undescribe (names : String → Bool) (t : SchemaTable) : SchemaTable where
  entries := t.entries.map fun entry =>
    (entry.1, if names entry.1 then entry.2.undescribed else entry.2)
  sorted := Table.sorted_map.mpr t.sorted
  distinct := by
    refine List.forall_mem_map.mpr fun entry hentry => ?_
    dsimp only
    split
    · exact Schema.hasDistinctNames_undescribed (t.distinct entry hentry)
    · exact t.distinct entry hentry

namespace Document

variable {a a' : Assembly} {paths paths' : Table String PathItem} {es es' : List Endpoint}

/-- A document without the descriptions of the schemas of some names. -/
def undescribe (names : String → Bool) (d : Document) : Document :=
  { d with components := d.components.undescribe names }

/-- Paths in order, each with an operation, are known by their operations. -/
theorem paths_ext (hsorted : paths.Sorted) (hsorted' : paths'.Sorted)
    (hne : ∀ entry ∈ paths, entry.2.operations ≠ [])
    (hne' : ∀ entry ∈ paths', entry.2.operations ≠ [])
    (hsame : ∀ path key, operation? paths path key = operation? paths' path key) :
    paths = paths' := by
  have hsome {paths : Table String PathItem} (hne : ∀ entry ∈ paths, entry.2.operations ≠ [])
      {path : String} {item : PathItem} (hitem : paths.lookup path = some item) :
      ∃ key, (operation? paths path key).isSome := by
    obtain ⟨entry, hentry⟩ :=
      List.exists_mem_of_ne_nil item.operations (hne _ (Table.mem_of_lookup hitem))
    refine ⟨entry.1, ?_⟩
    rw [operation?, hitem, Option.getD_some, Table.lookup_isSome_iff]
    exact List.mem_map_of_mem hentry
  refine hsorted.ext hsorted' fun path => ?_
  cases hitem : paths.lookup path with
  | none =>
      cases hitem' : paths'.lookup path with
      | none => rfl
      | some item' =>
          obtain ⟨key, hkey⟩ := hsome hne' hitem'
          rw [← hsame, operation?, hitem] at hkey
          cases hkey
  | some item =>
      cases hitem' : paths'.lookup path with
      | none =>
          obtain ⟨key, hkey⟩ := hsome hne hitem
          rw [hsame, operation?, hitem'] at hkey
          cases hkey
      | some item' =>
          refine congrArg some (PathItem.ext (item.sorted.ext item'.sorted fun key => ?_))
          have hkey := hsame path key
          rwa [operation?, operation?, hitem, hitem'] at hkey

/-- Where every place has one endpoint, the endpoint of a place is found in any order. -/
theorem find?_place_iff (hplaces : (es.map fun e => (e.verb, e.path)).Nodup) {path key : String}
    {e : Endpoint} :
    (es.find? fun e => e.path = path ∧ e.verb.key = key) = some e ↔
      e ∈ es ∧ e.path = path ∧ e.verb.key = key := by
  constructor
  · intro h
    exact ⟨List.mem_of_find?_eq_some h, by simpa using List.find?_some h⟩
  · rintro ⟨he, hplace⟩
    have hfound : (es.find? fun e => e.path = path ∧ e.verb.key = key).isSome :=
      List.find?_isSome.mpr ⟨e, he, by simpa using hplace⟩
    obtain ⟨first, hfirst⟩ := Option.isSome_iff_exists.mp hfound
    have hthere : first.path = path ∧ first.verb.key = key := by simpa using List.find?_some hfirst
    have hverb : first.verb = e.verb := Verb.key_injective (hthere.2.trans hplace.2.symm)
    have hsame : first = e := List.inj_on_of_nodup_map hplaces
      (List.mem_of_find?_eq_some hfirst) he
      (Prod.ext hverb (hthere.1.trans hplace.1.symm))
    rw [hfirst, hsame]

theorem pathsOf_perm (index : Index) (h : es.Perm es')
    (hplaces : (es.map fun e => (e.verb, e.path)).Nodup) :
    pathsOf (Assembly.ofEndpoints index es) es = pathsOf (Assembly.ofEndpoints index es') es' := by
  have hplaces' : (es'.map fun e => (e.verb, e.path)).Nodup := (h.map _).nodup_iff.mp hplaces
  refine paths_ext (sorted_pathsOf _ es) (sorted_pathsOf _ es') (items_ne_nil_pathsOf _ es)
    (items_ne_nil_pathsOf _ es') fun path key => ?_
  have hfirst : (es.find? fun e => e.path = path ∧ e.verb.key = key) =
      es'.find? fun e => e.path = path ∧ e.verb.key = key := by
    refine Option.ext fun e => ?_
    rw [find?_place_iff hplaces, find?_place_iff hplaces', h.mem_iff]
  rw [operation?_pathsOf, operation?_pathsOf, ← hfirst]
  cases hfound : es.find? fun e => e.path = path ∧ e.verb.key = key with
  | none => rfl
  | some e =>
      have he : e ∈ es := List.mem_of_find?_eq_some hfound
      rw [Option.map_some, Option.map_some, Assembly.fieldsOf?_requestType index he,
        Assembly.fieldsOf?_requestType index (h.mem_iff.mp he)]

/-- The schemas of a document without those descriptions that show a role, name by name. -/
theorem lookup_undescribe (names : String → Bool) (info : Info) (a : Assembly)
    (es : List Endpoint) (name : String) :
    ((build info a es).undescribe names).schemas.lookup name = (a.component? name).map fun c =>
      if names name then c.schema.undescribed else c.schema := by
  have hschema := Table.lookup_map_snd Component.schema a.components name
  have hnames := Table.lookup_map_key Function.injective_id
    (fun (name : String) (s : Schema) => if names name then s.undescribed else s) a.schemas name
  refine hnames.trans ?_
  rw [show a.schemas.lookup name = _ from hschema, Option.map_map]
  rfl

theorem components_perm (index : Index) (info : Info) (h : es.Perm es') :
    ((ofEndpoints index info es).undescribe (isRoleDependent index es)).components =
      ((ofEndpoints index info es').undescribe (isRoleDependent index es)).components := by
  refine SchemaTable.ext (Table.Sorted.ext (SchemaTable.sorted _) (SchemaTable.sorted _)
    fun name => ?_)
  refine (lookup_undescribe _ info _ es name).trans (Eq.trans ?_
    (lookup_undescribe _ info _ es' name).symm)
  rcases Assembly.component?_perm index h name with
    hsame | ⟨role, role', hrole, hrole', hrequest, hresponse⟩
  · rw [hsame]
  · rw [hrole, hrole', Option.map_some, Option.map_some]
    rcases Component.schema_of_role role role' (index.fields? name) with
      hsame | ⟨hfields, hundescribed⟩
    · rw [hsame]
    · have hdependent : isRoleDependent index es name := by
        simpa [isRoleDependent, hfields] using ⟨hrequest, hresponse⟩
      rw [if_pos hdependent, if_pos hdependent, hundescribed]

theorem undescribe_perm (index : Index) (info : Info) (h : es.Perm es')
    (hplaces : (es.map fun e => (e.verb, e.path)).Nodup) :
    (ofEndpoints index info es).undescribe (isRoleDependent index es) =
      (ofEndpoints index info es').undescribe (isRoleDependent index es) := by
  -- Said with what both sides are, since their assemblies are not the same by computation.
  have hversion (es : List Endpoint) : (ofEndpoints index info es).version = formatVersion := rfl
  have hinfo (es : List Endpoint) : (ofEndpoints index info es).info = info := rfl
  refine Document.ext ?_ ?_ (pathsOf_perm index h hplaces) (components_perm index info h)
  · exact (hversion es).trans (hversion es').symm
  · exact (hinfo es).trans (hinfo es').symm

end Document

namespace Generated

variable {index : Index} {info : Info} {es es' : List Endpoint}

theorem ofEndpoints_eq_ok_iff :
    (∃ g, ofEndpoints index info es = .ok g) ↔
      ¬ ((Assembly.ofEndpoints index es).breakdown? index).isSome := by
  unfold ofEndpoints
  dsimp only
  cases (Assembly.ofEndpoints index es).breakdown? index <;> simp

/-- The order of endpoints. Endpoints that differ in order only, no two of them with one verb and
path, are both described or both not, and these for a type that they need; and their documents are
the same except for the descriptions of types that the sources give no fields and that are used both
for requests and for responses. -/
theorem document_perm (index : Index) (info : Info) (es es' : List Endpoint) (h : es.Perm es')
    (hplaces : (es.map fun e => (e.verb, e.path)).Nodup) :
    (BreaksDown index info es ∧ BreaksDown index info es') ∨
    ∃ g g', ofEndpoints index info es = .ok g ∧ ofEndpoints index info es' = .ok g' ∧
      g.document.undescribe (isRoleDependent index es) =
        g'.document.undescribe (isRoleDependent index es) := by
  have hboth := Assembly.breakdown?_perm index h
  cases hbreakdown : (Assembly.ofEndpoints index es).breakdown? index with
  | some b =>
      obtain ⟨b', hbreakdown'⟩ := Option.isSome_iff_exists.mp (hboth.mp (by rw [hbreakdown]; rfl))
      exact Or.inl ⟨breaksDown_of_breakdown? info hbreakdown,
        breaksDown_of_breakdown? info hbreakdown'⟩
  | none =>
      rw [hbreakdown] at hboth
      obtain ⟨g, hg⟩ := ofEndpoints_eq_ok_iff.mpr (by rw [hbreakdown]; exact Bool.false_ne_true)
      obtain ⟨g', hg'⟩ :=
        ofEndpoints_eq_ok_iff.mpr fun hsome => Bool.false_ne_true (hboth.mpr hsome)
      refine Or.inr ⟨g, g', hg, hg', ?_⟩
      rw [document_of_eq_ok hg, document_of_eq_ok hg']
      exact Document.undescribe_perm index info h hplaces

/-- Two endpoints, one of which asks with the type that the other answers. The sources declare only
another type, so that the description of the common one shows which endpoint came first. -/
theorem document_perm_common_type :
    let item : Source.Code := .record ⟨"Item", [], [⟨"id", .ofName "u32", []⟩]⟩ []
    let index := Index.ofFiles [⟨"lib.rs", [], [item]⟩]
    let ask : Endpoint :=
      { verb := .post, path := "/v1/items", requestType := "Common", responseType := "Item" }
    let answer : Endpoint :=
      { verb := .get, path := "/v1/items", requestType := "Query", responseType := "Common" }
    let description (g : Generated) := (g.document.schemas.lookup "Common").bind (·.description)
    ∃ g g', ofEndpoints index Document.defaultInfo [ask, answer] = .ok g ∧
      ofEndpoints index Document.defaultInfo [answer, ask] = .ok g' ∧
      description g = some "Request type - properties to be documented" ∧
      description g' = some "Response type - properties to be documented" ∧
      g.document.undescribe (isRoleDependent index [ask, answer]) =
        g'.document.undescribe (isRoleDependent index [ask, answer]) := by
  intro item index ask answer description
  have hnone : [ask, answer].flatMap Assembly.declaredTypes ++
      ([ask, answer].foldl (Assembly.addPayloads index) {}).references = [] := by
    decide +kernel
  have hassembly : Assembly.ofEndpoints index [ask, answer] =
      [ask, answer].foldl (Assembly.addPayloads index) {} := by
    rw [Assembly.ofEndpoints, Assembly.addEndpoints, hnone, Assembly.addReachable]
  have hdescribed : ¬ ((Assembly.ofEndpoints index [ask, answer]).breakdown? index).isSome := by
    rw [hassembly]
    decide +kernel
  have hdescription (role : Role) {es : List Endpoint} {g : Generated}
      (hrole : Assembly.payloadRole? es "Common" = some role)
      (hg : ofEndpoints index Document.defaultInfo es = .ok g) :
      description g = some (role.name ++ " type - properties to be documented") := by
    have hschema := Table.lookup_map_snd Component.schema
      (Assembly.ofEndpoints index es).components "Common"
    have hfields : index.fields? "Common" = none := by decide +kernel
    simp only [description, document_of_eq_ok hg]
    refine (congrArg (Option.bind · Schema.description) hschema).trans ?_
    rw [show (Assembly.ofEndpoints index es).components.lookup "Common" = _ from
      Assembly.component?_of_payloadRole? index hrole, hfields]
    rfl
  rcases document_perm index Document.defaultInfo [ask, answer] [answer, ask]
    (List.Perm.swap _ _ _) (by decide) with ⟨⟨-, -, b, -, hb⟩, -⟩ | ⟨g, g', hg, hg', hsame⟩
  · obtain ⟨g, hg⟩ := ofEndpoints_eq_ok_iff.mpr hdescribed
    rw [hb] at hg
    cases hg
  · exact ⟨g, g', hg, hg', hdescription .request rfl hg, hdescription .response rfl hg', hsame⟩

end Generated

end RouteContract
