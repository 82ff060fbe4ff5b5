import RouteContract.Json.Distinct
import RouteContract.Schema.Component

/-!
Schemas in which no object has two properties of one name. All schemas that are built are such, and
so are all that are read: of members with one name the last gives the schema.
-/

namespace RouteContract

namespace Schema

mutual

/-- Whether no object of properties in a schema has a name twice. -/
def hasDistinctNames : Schema → Bool
  | ⟨_, _, _, _, items, properties, _, _⟩ => itemsDistinct items && propertiesDistinct properties

def itemsDistinct : Option Schema → Bool
  | none => true
  | some s => s.hasDistinctNames

def propertiesDistinct : Option (List (String × Schema)) → Bool
  | none => true
  | some ps => decide (ps.map (·.1)).Nodup && allDistinct ps

def allDistinct : List (String × Schema) → Bool
  | [] => true
  | (_, s) :: rest => s.hasDistinctNames && allDistinct rest

end

theorem hasDistinctNames_iff (s : Schema) :
    s.hasDistinctNames ↔ (∀ i ∈ s.items, i.hasDistinctNames) ∧
      ∀ ps ∈ s.properties, (ps.map (·.1)).Nodup ∧ ∀ p ∈ ps, p.2.hasDistinctNames := by
  have all (ps : List (String × Schema)) : allDistinct ps ↔ ∀ p ∈ ps, p.2.hasDistinctNames := by
    induction ps with
    | nil => simp [allDistinct]
    | cons p rest ih => simp [allDistinct, ih]
  obtain ⟨reference, type, format, members, items, properties, required, description⟩ := s
  cases items <;> cases properties <;>
    simp [hasDistinctNames, itemsDistinct, propertiesDistinct, all]

/-- A schema without items and without properties has no names to repeat. -/
theorem hasDistinctNames_of_flat {s : Schema} (items : s.items = none)
    (properties : s.properties = none) : s.hasDistinctNames :=
  (hasDistinctNames_iff s).mpr ⟨by simp [items], by simp [properties]⟩

@[simp] theorem hasDistinctNames_ofType (type : String) : (ofType type).hasDistinctNames :=
  hasDistinctNames_of_flat rfl rfl

@[simp] theorem hasDistinctNames_ofName (name : String) : (ofName name).hasDistinctNames :=
  hasDistinctNames_of_flat rfl rfl

theorem hasDistinctNames_ofDescriptor (d : Descriptor) : (ofDescriptor d).hasDistinctNames := by
  induction d with
  | array items ih =>
    refine (hasDistinctNames_iff _).mpr ⟨?_, nofun⟩
    rintro _ ⟨⟩
    exact ih
  | _ => exact hasDistinctNames_of_flat rfl rfl

theorem hasDistinctNames_ofField (f : FieldRecord) : (ofField f).hasDistinctNames := by
  have described := hasDistinctNames_ofDescriptor f.descriptor
  unfold ofField
  dsimp only
  split
  · rwa [hasDistinctNames_iff] at described ⊢
  · exact described

/-- Properties are set one after the other, so no name is there twice. -/
theorem hasDistinctNames_objectWith {schemaOf : FieldRecord → Schema}
    (distinct : ∀ f, (schemaOf f).hasDistinctNames) (fields : List FieldRecord) :
    (objectWith schemaOf fields).hasDistinctNames := by
  refine (hasDistinctNames_iff _).mpr ⟨nofun, ?_⟩
  rintro _ ⟨⟩
  refine ⟨Json.nodup_setMembers (by simp) _, fun p hp => ?_⟩
  rcases Json.mem_setMembers hp with none | given
  · cases none
  · obtain ⟨f, -, rfl⟩ := List.mem_map.mp given
    exact distinct f

theorem hasDistinctNames_ofFields (fields : List FieldRecord) :
    (ofFields fields).hasDistinctNames :=
  hasDistinctNames_objectWith hasDistinctNames_ofField fields

theorem hasDistinctNames_ofForm (fields : List FieldRecord) : (ofForm fields).hasDistinctNames :=
  hasDistinctNames_objectWith (fun _ => hasDistinctNames_ofType "string") fields

end Schema

theorem Component.hasDistinctNames_schema (c : Component) : c.schema.hasDistinctNames := by
  unfold schema
  split
  · exact Schema.hasDistinctNames_ofFields _
  · exact Schema.hasDistinctNames_of_flat rfl rfl

/-- A schema whose properties have distinct names at every depth. -/
abbrev DistinctSchema := { s : Schema // s.hasDistinctNames }

namespace DistinctSchema

/-- A schema with given items and properties. Of properties with one name the last gives the
schema. -/
def within (s : Schema) (items : Option DistinctSchema)
    (properties : Option (List (String × DistinctSchema))) : DistinctSchema where
  val := { s with
    items := items.map (·.val)
    properties := properties.map fun ps =>
      (Json.setMembers [] ps).map fun p => (p.1, p.2.val) }
  property := by
    refine (Schema.hasDistinctNames_iff _).mpr ⟨?_, ?_⟩
    · intro i hi
      obtain ⟨item, -, rfl⟩ := Option.map_eq_some_iff.mp hi
      exact item.property
    · intro ps hps
      obtain ⟨given, -, rfl⟩ := Option.map_eq_some_iff.mp hps
      rw [List.map_map]
      refine ⟨Json.nodup_setMembers (by simp) given, fun p hp => ?_⟩
      obtain ⟨q, -, rfl⟩ := List.mem_map.mp hp
      exact q.2.property

/-- Reads a schema nested at most so deep. -/
def ofJsonWithin? : Nat → Json → Option DistinctSchema
  | 0, _ => none
  | n + 1, j => do
    let [reference, type, format, members, items, properties, required, description] ←
      Json.slots? Schema.memberNames j | none
    let text := Json.Slot.optional? Json.asText?
    let texts := Json.Slot.optional? (Json.list? Json.asText?)
    let inner := ofJsonWithin? n
    let flat : Schema := {
      reference := ← text reference
      type := ← text type
      format := ← text format
      members := ← texts members
      required := ← texts required
      description := ← text description }
    return within flat (← Json.Slot.optional? inner items)
      (← Json.Slot.optional? (Json.entries? inner) properties)

def ofJson? (j : Json) : Option DistinctSchema := ofJsonWithin? j.depth j

end DistinctSchema

end RouteContract
