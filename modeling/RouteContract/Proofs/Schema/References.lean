import RouteContract.Proofs.Json.Members
import RouteContract.Proofs.Json.References
import RouteContract.Schema.Component

/-!
The references that occur in schemas. A schema refers to a target itself, through its items or
through its properties. The schema of a field refers to the type that its descriptor names, through
arrays of any depth, and to nothing else, so the references of a component's schema are among the
types that the component says its fields refer to.
-/

namespace RouteContract

namespace Schema

variable {target : String}

theorem propertyMembers_eq_map (properties : List (String × Schema)) :
    propertyMembers properties = properties.map fun p => (p.1, p.2.toJson) := by
  induction properties with
  | nil => rfl
  | cons p rest ih => rw [propertyMembers, ih, List.map_cons]

theorem toJson_ne_str (s : Schema) (text : String) : s.toJson ≠ .str text := by
  cases s
  simp [toJson]

/-- A schema refers to what it, its items or its properties refer to. -/
theorem toJson_refersTo {s : Schema} :
    s.toJson.RefersTo target ↔
      s.reference = some target ∨ (∃ items, s.items = some items ∧ items.toJson.RefersTo target) ∨
      ∃ properties, s.properties = some properties ∧
        ∃ p ∈ properties, p.2.toJson.RefersTo target := by
  obtain ⟨reference, type, format, members, items, properties, required, description⟩ := s
  have hitems : Json.MembersReferTo (itemsMember items) target ↔
      ∃ s, items = some s ∧ s.toJson.RefersTo target := by
    cases items <;> simp [itemsMember, Json.MembersReferTo]
  have hproperties : Json.MembersReferTo (propertiesMember properties) target ↔
      ∃ ps, properties = some ps ∧ ∃ p ∈ ps, p.2.toJson.RefersTo target := by
    cases properties with
    | none => simp [propertiesMember]
    | some ps =>
        simp [propertiesMember, Json.MembersReferTo, propertyMembers_eq_map, toJson_ne_str]
  simp [toJson, hitems, hproperties]

theorem not_refersTo_of_flat {s : Schema} (hreference : s.reference = none)
    (hitems : s.items = none) (hproperties : s.properties = none) :
    ¬ s.toJson.RefersTo target := by
  rw [toJson_refersTo, hreference, hitems, hproperties]
  simp

theorem ofName_refersTo {name : String} :
    (ofName name).toJson.RefersTo target ↔ target = "#/components/schemas/" ++ name := by
  rw [toJson_refersTo]
  simp [ofName, eq_comm]

theorem not_ofType_refersTo {type : String} : ¬ (ofType type).toJson.RefersTo target :=
  not_refersTo_of_flat rfl rfl rfl

/-- The schema of a descriptor refers to the type that the descriptor names. -/
theorem ofDescriptor_refersTo {d : Descriptor} :
    (ofDescriptor d).toJson.RefersTo target ↔
      ∃ name, d.referenceName? = some name ∧ target = "#/components/schemas/" ++ name := by
  have hflat {s : Schema} (h : ¬ s.toJson.RefersTo target) : s.toJson.RefersTo target ↔
      ∃ name, none = some name ∧ target = "#/components/schemas/" ++ name := by
    simp [h]
  induction d with
  | primitive kind format => exact hflat (not_refersTo_of_flat rfl rfl rfl)
  | choice members => exact hflat (not_refersTo_of_flat rfl rfl rfl)
  | array items ih =>
      refine Iff.trans ?_ ih
      rw [toJson_refersTo]
      simp [ofDescriptor, ofType]
  | object => exact hflat not_ofType_refersTo
  | reference name =>
      rw [ofDescriptor, ofName_refersTo]
      simp [Descriptor.referenceName?]

/-- Describing a field adds no reference to the schema of its descriptor. -/
theorem ofField_refersTo {f : FieldRecord} :
    (ofField f).toJson.RefersTo target ↔ (ofDescriptor f.descriptor).toJson.RefersTo target := by
  unfold ofField
  dsimp only
  split
  · rw [toJson_refersTo, toJson_refersTo]
  · exact Iff.rfl

/-- A property of an object comes from one of the fields. -/
theorem objectWith_refersTo {schemaOf : FieldRecord → Schema} {fields : List FieldRecord}
    (h : (objectWith schemaOf fields).toJson.RefersTo target) :
    ∃ f ∈ fields, (schemaOf f).toJson.RefersTo target := by
  rw [toJson_refersTo] at h
  rcases h with h | ⟨items, hitems, _⟩ | ⟨properties, hproperties, p, hp, href⟩
  · cases h
  · cases hitems
  · cases hproperties
    rcases Json.mem_setMembers hp with hmem | hmem
    · cases hmem
    · obtain ⟨f, hf, rfl⟩ := List.mem_map.mp hmem
      exact ⟨f, hf, href⟩

theorem not_ofForm_refersTo {fields : List FieldRecord} :
    ¬ (ofForm fields).toJson.RefersTo target := by
  intro h
  obtain ⟨_, _, hfield⟩ := objectWith_refersTo h
  exact not_ofType_refersTo hfield

end Schema

/-- Every reference in the schema of a component is to a type that its fields refer to. -/
theorem Component.schema_refersTo {c : Component} {target : String}
    (h : c.schema.toJson.RefersTo target) :
    ∃ name ∈ c.references, target = "#/components/schemas/" ++ name := by
  unfold Component.schema at h
  split at h
  · next f fs hfields =>
    obtain ⟨field, hmem, hfield⟩ := Schema.objectWith_refersTo h
    obtain ⟨name, hname, rfl⟩ :=
      Schema.ofDescriptor_refersTo.mp (Schema.ofField_refersTo.mp hfield)
    refine ⟨name, ?_, rfl⟩
    rw [Component.references, hfields, Option.getD_some]
    exact List.mem_filterMap.mpr ⟨field, hmem, hname⟩
  · exact absurd h (Schema.not_refersTo_of_flat rfl rfl rfl)

end RouteContract
