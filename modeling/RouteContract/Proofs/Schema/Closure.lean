import RouteContract.Proofs.Table
import RouteContract.Schema.Assembly

/-!
The components of endpoints are closed under references. The work list carries the argument: at
every step a type that some component refers to is settled or still waits in the list, and a type
is settled once it is a component or has been looked up in vain. When the list is empty nothing
waits, however the types refer to each other.
-/

namespace RouteContract.Assembly

open Source (Index)

variable {index : Index} {a b c : Assembly} {e : Endpoint} {name : String} {names : List String}

/-- The name is a component, or it has been looked up and is no record of the sources. -/
def Settled (index : Index) (a : Assembly) (name : String) : Prop :=
  (a.component? name).isSome ∨ (name ∈ a.consulted ∧ index.fields? name = none)

/-- Every type that a component refers to is settled or waits in the list. -/
def Covered (index : Index) (a : Assembly) (waiting : List String) : Prop :=
  ∀ entry ∈ a.components, ∀ name ∈ entry.2.references, name ∈ waiting ∨ a.Settled index name

/-- The second assembly has the components of the first, and has looked up what the first has. -/
structure Extends (a b : Assembly) : Prop where
  components : ∀ name, (a.component? name).isSome → (b.component? name).isSome
  consulted : a.consulted ⊆ b.consulted

theorem Extends.refl (a : Assembly) : a.Extends a :=
  ⟨fun _ h => h, List.Subset.refl _⟩

theorem Extends.trans (hab : a.Extends b) (hbc : b.Extends c) : a.Extends c :=
  ⟨fun name h => hbc.components name (hab.components name h),
    List.Subset.trans hab.consulted hbc.consulted⟩

theorem Settled.mono (h : a.Settled index name) (hext : a.Extends b) : b.Settled index name := by
  rcases h with h | ⟨hmem, hnone⟩
  · exact Or.inl (hext.components name h)
  · exact Or.inr ⟨hext.consulted hmem, hnone⟩

theorem extends_consult (a : Assembly) (name : String) :
    a.Extends { a with consulted := a.consulted ++ [name] } :=
  ⟨fun _ h => h, List.subset_append_left _ _⟩

theorem components_addShared (hnew : a.component? name = none) (fields : List FieldRecord) :
    (a.addShared name fields).components = a.components.insert name ⟨.shared, some fields⟩ :=
  put_of_new hnew _

theorem component?_addShared (hnew : a.component? name = none) (other : String)
    (fields : List FieldRecord) : (a.addShared name fields).component? other =
      if other = name then some ⟨.shared, some fields⟩ else a.component? other := by
  rw [component?, components_addShared hnew, Table.lookup_insert]
  rfl

theorem extends_addShared (hnew : a.component? name = none) (fields : List FieldRecord) :
    a.Extends (a.addShared name fields) := by
  refine ⟨?_, List.subset_append_left _ _⟩
  intro other h
  rw [component?_addShared hnew]
  split
  · rfl
  · exact h

theorem isSome_lookup_put (name other : String) (component : Component)
    (components : Table String Component) :
    ((put name component components).lookup other).isSome ↔
      other = name ∨ (components.lookup other).isSome := by
  have hinserted : ((components.insert name component).lookup other).isSome ↔
      other = name ∨ (components.lookup other).isSome := by
    rw [Table.lookup_isSome_iff, Table.mem_keys_insert, Table.lookup_isSome_iff]
  rw [put]
  cases hfirst : components.lookup name with
  | none => exact hinserted
  | some first =>
    dsimp only
    split
    · refine (or_iff_right_of_imp ?_).symm
      rintro rfl
      rw [hfirst]
      rfl
    · exact hinserted

theorem isSome_component?_add (index : Index) (a : Assembly) (name other : String) (role : Role) :
    ((a.add index name role).component? other).isSome ↔
      other = name ∨ (a.component? other).isSome :=
  isSome_lookup_put name other _ a.components

theorem extends_add (index : Index) (a : Assembly) (name : String) (role : Role) :
    a.Extends (a.add index name role) :=
  ⟨fun other h => (isSome_component?_add index a name other role).mpr (Or.inr h),
    List.subset_append_left _ _⟩

/-- Taking a name from the list keeps the cover, if the name is settled by the step and the types
that new components refer to are put into the list. -/
theorem Covered.step {waiting : List String} (h : a.Covered index (name :: names))
    (hext : a.Extends b) (hname : b.Settled index name) (hrest : names ⊆ waiting)
    (hnew : ∀ entry ∈ b.components,
      entry ∈ a.components ∨ ∀ other ∈ entry.2.references, other ∈ waiting) :
    b.Covered index waiting := by
  intro entry hentry other hother
  rcases hnew entry hentry with hold | hadded
  · rcases h entry hold other hother with hwaits | hsettled
    · rcases List.mem_cons.mp hwaits with rfl | hwaits
      · exact Or.inr hname
      · exact Or.inl (hrest hwaits)
    · exact Or.inr (hsettled.mono hext)
  · exact Or.inl (hadded other hother)

/-- A run of the work list settles every name in it and leaves nothing waiting. -/
theorem addReachable_settles (index : Index) (a : Assembly) (names : List String)
    (hcovered : a.Covered index names) :
    a.Extends (a.addReachable index names) ∧
      (∀ name ∈ names, (a.addReachable index names).Settled index name) ∧
      (a.addReachable index names).Covered index [] := by
  fun_induction addReachable index a names with
  | case1 a => exact ⟨Extends.refl a, by simp, hcovered⟩
  | case2 a name rest component hcomponent ih =>
      have hname : a.Settled index name := Or.inl (by rw [hcomponent]; rfl)
      have hrest : a.Covered index rest :=
        hcovered.step (Extends.refl a) hname (List.Subset.refl _) fun _ h => Or.inl h
      obtain ⟨hext, hsettled, hdone⟩ := ih hrest
      exact ⟨hext, List.forall_mem_cons.mpr ⟨hname.mono hext, hsettled⟩, hdone⟩
  | case3 a name rest hnew hfields ih =>
      have hconsult := extends_consult a name
      have hname : Settled index { a with consulted := a.consulted ++ [name] } name :=
        Or.inr ⟨by simp, hfields⟩
      have hrest : Covered index { a with consulted := a.consulted ++ [name] } rest :=
        hcovered.step hconsult hname (List.Subset.refl _) fun _ h => Or.inl h
      obtain ⟨hext, hsettled, hdone⟩ := ih hrest
      exact ⟨hconsult.trans hext, List.forall_mem_cons.mpr ⟨hname.mono hext, hsettled⟩, hdone⟩
  | case4 a name rest hnew fields hfields ih =>
      have hadd := extends_addShared hnew fields
      have hname : (a.addShared name fields).Settled index name := by
        refine Or.inl ?_
        rw [component?_addShared hnew, if_pos rfl]
        rfl
      have hrest : (a.addShared name fields).Covered index
          (rest ++ fields.filterMap (·.descriptor.referenceName?)) := by
        refine hcovered.step hadd hname (List.subset_append_left _ _) ?_
        -- The one new component puts the types of its fields at the end of the list.
        intro entry hentry
        rw [components_addShared hnew] at hentry
        rcases Table.mem_insert hentry with rfl | hold
        · exact Or.inr fun other hother => List.mem_append_right _ hother
        · exact Or.inl hold
      obtain ⟨hext, hsettled, hdone⟩ := ih hrest
      have hkept := fun other hother => hsettled other (List.mem_append_left _ hother)
      exact ⟨hadd.trans hext, List.forall_mem_cons.mpr ⟨hname.mono hext, hkept⟩, hdone⟩

/-- Both payload types of an endpoint are components. -/
def HasPayloads (a : Assembly) (e : Endpoint) : Prop :=
  (a.component? e.requestType).isSome ∧ (a.component? e.responseType).isSome

theorem HasPayloads.mono (h : a.HasPayloads e) (hext : a.Extends b) : b.HasPayloads e :=
  ⟨hext.components _ h.1, hext.components _ h.2⟩

theorem extends_addPayloads (index : Index) (a : Assembly) (e : Endpoint) :
    a.Extends (a.addPayloads index e) :=
  (extends_add index a _ _).trans (extends_add index _ _ _)

theorem hasPayloads_addPayloads (index : Index) (a : Assembly) (e : Endpoint) :
    (a.addPayloads index e).HasPayloads e := by
  constructor
  · apply (extends_add index _ e.responseType .response).components
    exact (isSome_component?_add index a _ _ _).mpr (Or.inl rfl)
  · exact (isSome_component?_add index _ _ _ _).mpr (Or.inl rfl)

theorem foldl_addPayloads (index : Index) (es : List Endpoint) (a : Assembly) :
    a.Extends (es.foldl (addPayloads index) a) ∧
      ∀ e ∈ es, (es.foldl (addPayloads index) a).HasPayloads e := by
  induction es generalizing a with
  | nil => exact ⟨Extends.refl a, by simp⟩
  | cons e es ih =>
      obtain ⟨hext, hpayloads⟩ := ih (a.addPayloads index e)
      refine ⟨(extends_addPayloads index a e).trans hext, ?_⟩
      exact List.forall_mem_cons.mpr ⟨(hasPayloads_addPayloads index a e).mono hext, hpayloads⟩

/-- Everything that endpoints and components refer to is settled. -/
structure Closed (index : Index) (a : Assembly) (es : List Endpoint) : Prop where
  payloads : ∀ e ∈ es, a.HasPayloads e
  declared : ∀ e ∈ es, ∀ name ∈ declaredTypes e, a.Settled index name
  nested : ∀ entry ∈ a.components, ∀ name ∈ entry.2.references, a.Settled index name

/-- Whatever is there before, adding endpoints closes the assembly, for every graph of types. -/
theorem closed_addEndpoints (index : Index) (a : Assembly) (es : List Endpoint) :
    (a.addEndpoints index es).Closed index es := by
  obtain ⟨-, hpayloads⟩ := foldl_addPayloads index es a
  let start := es.foldl (addPayloads index) a
  have hcovered : start.Covered index (es.flatMap declaredTypes ++ start.references) := by
    intro entry hentry name hname
    exact Or.inl (List.mem_append_right _ (List.mem_flatMap.mpr ⟨entry, hentry, hname⟩))
  obtain ⟨hext, hsettled, hdone⟩ := addReachable_settles index start _ hcovered
  refine ⟨?_, ?_, ?_⟩
  · intro e he
    exact (hpayloads e he).mono hext
  · intro e he name hname
    exact hsettled name (List.mem_append_left _ (List.mem_flatMap.mpr ⟨e, he, hname⟩))
  · intro entry hentry name hname
    exact (hdone entry hentry name hname).resolve_left (by simp)

/-- The assembly of endpoints is closed. -/
theorem closed_ofEndpoints (index : Index) (es : List Endpoint) :
    (ofEndpoints index es).Closed index es :=
  closed_addEndpoints index {} es

end RouteContract.Assembly
