import Mathlib.Tactic
import RouteContract.Proofs.Document.Codec
import RouteContract.Proofs.Json.Records
import RouteContract.Proofs.Schema.References

/-!
Schemas read back from their JSON form. What a schema does not say is not written and is read as not
said, at every depth of items and properties, and properties keep their order. A schema whose
properties have distinct names is thus read as it was written.
-/

namespace RouteContract

theorem Json.setMembers_of_nodup {α : Type} {new : List (String × α)}
    (h : (new.map (·.1)).Nodup) : Json.setMembers [] new = new := by
  have hset {name : String} (value : α) {members : List (String × α)}
      (hnew : name ∉ members.map (·.1)) :
      Json.setMember name value members = members ++ [(name, value)] := by
    induction members with
    | nil => rfl
    | cons m rest ih =>
        rw [List.map_cons, List.mem_cons, not_or] at hnew
        rw [Json.setMember, if_neg (Ne.symm hnew.1), ih hnew.2, List.cons_append]
  induction new using List.reverseRecOn with
  | nil => rfl
  | append_singleton new m ih =>
      rw [List.map_append, List.map_singleton, ← List.concat_eq_append, List.nodup_concat] at h
      have hrest := ih h.2
      rw [Json.setMembers] at hrest ⊢
      rw [List.foldl_append, hrest, List.foldl_cons, List.foldl_nil, hset m.2 h.1]

theorem Json.depth_le_membersDepth {members : List (String × Json)} {m : String × Json}
    (h : m ∈ members) : m.2.depth ≤ Json.membersDepth members := by
  induction members with
  | nil => cases h
  | cons head rest ih =>
      rw [Json.membersDepth]
      rcases List.mem_cons.mp h with rfl | h
      · exact Nat.le_max_left _ _
      · exact (ih h).trans (Nat.le_max_right _ _)

namespace Schema

/-- Induction over a schema: what holds of its items and of all its properties holds of it. -/
@[elab_as_elim]
theorem inductionOn {motive : Schema → Prop} (s : Schema)
    (step : ∀ s : Schema, (∀ i ∈ s.items, motive i) →
      (∀ ps ∈ s.properties, ∀ p ∈ ps, motive p.2) → motive s) : motive s :=
  @Schema.rec motive (fun items => ∀ i ∈ items, motive i)
    (fun properties => ∀ ps ∈ properties, ∀ p ∈ ps, motive p.2)
    (fun ps => ∀ p ∈ ps, motive p.2) (fun p => motive p.2)
    (fun _ _ _ _ _ _ _ _ hitems hproperties => step _ hitems hproperties)
    (fun _ hi => nomatch hi)
    (fun _ hi _ heq => Option.mem_some.mp heq ▸ hi)
    (fun _ hps => nomatch hps)
    (fun _ hps _ heq => Option.mem_some.mp heq ▸ hps)
    (fun _ hp => nomatch hp)
    (fun _ _ hhead htail => List.forall_mem_cons.mpr ⟨hhead, htail⟩)
    (fun _ _ hvalue => hvalue) s

/-- All members of a schema are written only if they are there. -/
theorem toJson_eq (s : Schema) : s.toJson = .obj (
    Json.optionalMember "$ref" .str s.reference ++ Json.optionalMember "type" .str s.type ++
    Json.optionalMember "format" .str s.format ++ Json.optionalMember "enum" Json.texts s.members ++
    Json.optionalMember "items" toJson s.items ++
    Json.optionalMember "properties" (Json.ofTable toJson) s.properties ++
    Json.optionalMember "required" Json.texts s.required ++
    Json.optionalMember "description" .str s.description) := by
  obtain ⟨reference, type, format, members, items, properties, required, description⟩ := s
  have hitems : itemsMember items = Json.optionalMember "items" toJson items := by
    cases items <;> rfl
  have hproperties : propertiesMember properties =
      Json.optionalMember "properties" (Json.ofTable toJson) properties := by
    cases properties with
    | none => rfl
    | some ps => rw [propertiesMember, propertyMembers_eq_map]; rfl
  rw [toJson, hitems, hproperties]

theorem slots?_toJson (s : Schema) :
    Json.slots? memberNames s.toJson = some ([s.reference.map .str, s.type.map .str,
      s.format.map .str, s.members.map Json.texts, s.items.map toJson,
      s.properties.map (Json.ofTable toJson), s.required.map Json.texts,
      s.description.map .str].map Json.Slot.ofOption) := by
  have hnames : memberNames.Nodup := by decide
  rw [toJson_eq, Json.slots?_of_namedBy hnames]
  · simp [memberNames, List.lookup_append]
  · exact (((((((Json.namedBy_optionalMember _ _ _).append
      (Json.namedBy_optionalMember _ _ _)).append (Json.namedBy_optionalMember _ _ _)).append
      (Json.namedBy_optionalMember _ _ _)).append (Json.namedBy_optionalMember _ _ _)).append
      (Json.namedBy_optionalMember _ _ _)).append (Json.namedBy_optionalMember _ _ _)).append
      (Json.namedBy_optionalMember _ _ _)

theorem toJson_ne_null (s : Schema) : s.toJson ≠ .null := by
  rw [toJson_eq]
  exact Json.noConfusion

theorem depth_items_lt {s i : Schema} (h : s.items = some i) : i.toJson.depth < s.toJson.depth := by
  have hmem : ("items", i.toJson) ∈ Json.optionalMember "items" toJson s.items := by
    simp [h, Json.optionalMember]
  rw [toJson_eq s, Json.depth, Nat.lt_succ_iff]
  refine Json.depth_le_membersDepth (m := ("items", i.toJson)) ?_
  simp only [List.mem_append, hmem, true_or, or_true]

theorem depth_property_lt {s : Schema} {ps : List (String × Schema)} {p : String × Schema}
    (h : s.properties = some ps) (hp : p ∈ ps) : p.2.toJson.depth < s.toJson.depth := by
  have hmem : ("properties", Json.ofTable toJson ps) ∈
      Json.optionalMember "properties" (Json.ofTable toJson) s.properties := by
    simp [h, Json.optionalMember]
  have hinner : p.2.toJson.depth < (Json.ofTable toJson ps).depth := by
    rw [Json.ofTable, Json.depth, Nat.lt_succ_iff]
    refine Json.depth_le_membersDepth (m := (p.1, p.2.toJson)) ?_
    exact List.mem_map.mpr ⟨p, hp, rfl⟩
  have houter : (Json.ofTable toJson ps).depth < s.toJson.depth := by
    rw [toJson_eq s, Json.depth, Nat.lt_succ_iff]
    refine Json.depth_le_membersDepth (m := ("properties", Json.ofTable toJson ps)) ?_
    simp only [List.mem_append, hmem, true_or, or_true]
  exact hinner.trans houter

end Schema

namespace DistinctSchema

open Json.Slot (optional?_given optional?_ofOption)

/-- Named schemas whose properties are distinct. -/
theorem exists_map_val {schemas : List (String × Schema)}
    (h : ∀ entry ∈ schemas, entry.2.hasDistinctNames) :
    ∃ given : List (String × DistinctSchema),
      given.map (fun entry => (entry.1, entry.2.val)) = schemas :=
  ⟨schemas.pmap (fun entry hentry => (entry.1, ⟨entry.2, hentry⟩)) h, by simp [List.map_pmap]⟩

theorem ofTable_map_val (encode : Schema → Json) (given : List (String × DistinctSchema)) :
    Json.ofTable encode (given.map fun entry => (entry.1, entry.2.val)) =
      Json.ofTable (fun s => encode s.val) given := by
  rw [Json.ofTable, List.map_map]
  rfl

theorem setMembers_map_val {given : List (String × DistinctSchema)}
    {schemas : List (String × Schema)}
    (hgiven : given.map (fun entry => (entry.1, entry.2.val)) = schemas)
    (h : (schemas.map (·.1)).Nodup) :
    (Json.setMembers [] given).map (fun entry => (entry.1, entry.2.val)) = schemas := by
  rw [← hgiven, List.map_map] at h
  rw [Json.setMembers_of_nodup h, hgiven]

/-- A schema is put together from what it says besides its items and properties, and these. -/
theorem val_within {s : Schema} {items : Option DistinctSchema}
    {properties : Option (List (String × DistinctSchema))} (hitems : items.map (·.val) = s.items)
    (hproperties : properties.map (fun ps =>
      (Json.setMembers [] ps).map fun p => (p.1, p.2.val)) = s.properties) :
    (within
      { reference := s.reference, type := s.type, format := s.format, members := s.members
        required := s.required, description := s.description }
      items properties).val = s := by
  cases s
  simp only [within, hitems, hproperties]

variable {s : Schema} {n : Nat}

theorem optional?_items (hdistinct : ∀ i ∈ s.items, i.hasDistinctNames)
    (h : ∀ i (hi : i ∈ s.items), ofJsonWithin? n i.toJson = some ⟨i, hdistinct i hi⟩) :
    ∃ items : Option DistinctSchema, items.map (·.val) = s.items ∧
      Json.Slot.optional? (ofJsonWithin? n) (.ofOption (s.items.map Schema.toJson)) =
        some items := by
  cases hsome : s.items with
  | none => exact ⟨none, rfl, rfl⟩
  | some i =>
      exact ⟨some ⟨i, hdistinct i hsome⟩, rfl, optional?_given i.toJson_ne_null (h i hsome)⟩

theorem optional?_properties
    (hdistinct : ∀ ps ∈ s.properties, (ps.map (·.1)).Nodup ∧ ∀ p ∈ ps, p.2.hasDistinctNames)
    (h : ∀ ps ∈ s.properties, ∀ p ∈ ps, ∀ hp : p.2.hasDistinctNames,
      ofJsonWithin? n p.2.toJson = some ⟨p.2, hp⟩) :
    ∃ properties : Option (List (String × DistinctSchema)),
      properties.map (fun ps => (Json.setMembers [] ps).map fun p => (p.1, p.2.val)) =
        s.properties ∧
      Json.Slot.optional? (Json.entries? (ofJsonWithin? n))
        (.ofOption (s.properties.map (Json.ofTable Schema.toJson))) = some properties := by
  cases hsome : s.properties with
  | none => exact ⟨none, rfl, rfl⟩
  | some ps =>
      obtain ⟨hnames, hall⟩ := hdistinct ps hsome
      obtain ⟨given, hgiven⟩ := exists_map_val hall
      refine ⟨some given, congrArg some (setMembers_map_val hgiven hnames), ?_⟩
      rw [← hgiven, Option.map_some, ofTable_map_val]
      refine optional?_given Json.noConfusion (Json.entries?_ofTable fun p hp => ?_)
      have hmem : (p.1, p.2.val) ∈ ps := hgiven ▸ List.mem_map_of_mem hp
      exact h ps hsome _ hmem p.2.property

theorem ofJsonWithin?_toJson (s : Schema) (hs : s.hasDistinctNames) (n : Nat)
    (hn : s.toJson.depth ≤ n) : ofJsonWithin? n s.toJson = some ⟨s, hs⟩ := by
  induction s using Schema.inductionOn generalizing n with
  | step s hitems hproperties =>
      obtain ⟨hdistinctItems, hdistinct⟩ := (Schema.hasDistinctNames_iff s).mp hs
      cases n with
      | zero =>
          rw [Schema.toJson_eq, Json.depth] at hn
          omega
      | succ n =>
          have htext (value : Option String) : Json.Slot.optional? Json.asText?
              (.ofOption (value.map .str)) = some value :=
            optional?_ofOption (fun _ => Json.noConfusion) fun _ _ => rfl
          have htexts (value : Option (List String)) : Json.Slot.optional?
              (Json.list? Json.asText?) (.ofOption (value.map Json.texts)) = some value :=
            optional?_ofOption (fun _ => Json.noConfusion) fun xs _ => Json.Codec.texts xs
          obtain ⟨items, hval, hread⟩ := optional?_items hdistinctItems fun i hi => by
            have hdepth := Schema.depth_items_lt hi
            exact hitems i hi _ n (by omega)
          obtain ⟨properties, hset, hreadProperties⟩ :=
            optional?_properties hdistinct fun ps hps p hp hdistinct => by
              have hdepth := Schema.depth_property_lt hps hp
              exact hproperties ps hps p hp hdistinct n (by omega)
          simp only [ofJsonWithin?, Schema.slots?_toJson, List.map_cons, List.map_nil, htext,
            htexts, hread, hreadProperties, Option.bind_eq_bind, Option.bind_some, Option.pure_def]
          exact congrArg some (Subtype.ext (val_within hval hset))

/-- A schema whose properties are distinct is read as it was written. -/
theorem codec : Json.Codec (fun s : DistinctSchema => s.val.toJson) ofJson? :=
  fun s => ofJsonWithin?_toJson s.val s.property _ le_rfl

end DistinctSchema

end RouteContract
