import RouteContract.Proofs.Schema.Closure

/-!
Which types are components, said without the work list and without an order. The payload types of
endpoints are, under the role in which they are met first; all other components are shared, and are
the records that can be reached from declared responses and from the fields of payload types. The
work list never leaves what can be reached, and what can be reached is settled when it is empty.
-/

namespace RouteContract.Assembly

open Source (Index)

variable {index : Index} {a b c : Assembly} {name other : String} {names roots : List String}

/-- The types that the fields of a record refer to; a name that is no record has none. -/
def fieldReferences (index : Index) (name : String) : List String :=
  ((index.fields? name).getD []).filterMap (·.descriptor.referenceName?)

/-- The names that are reached from given ones by following the fields of records. -/
inductive Reachable (index : Index) (roots : List String) : String → Prop
  | root {name : String} (h : name ∈ roots) : Reachable index roots name
  | step {name other : String} (h : Reachable index roots name)
      (href : other ∈ fieldReferences index name) : Reachable index roots other

theorem Reachable.mono {roots' : List String} (h : Reachable index roots name)
    (hroots : roots ⊆ roots') : Reachable index roots' name := by
  induction h with
  | root h => exact .root (hroots h)
  | step _ href ih => exact .step ih href

/-- Every component has the fields that the sources give its name. -/
def Faithful (index : Index) (a : Assembly) : Prop :=
  ∀ name component, a.component? name = some component → component.fields = index.fields? name

theorem Faithful.references (h : a.Faithful index) {component : Component}
    (hcomponent : a.component? name = some component) :
    component.references = fieldReferences index name := by
  rw [Component.references, h name component hcomponent, fieldReferences]

theorem faithful_empty (index : Index) : ({} : Assembly).Faithful index :=
  fun _ _ h => nomatch h

theorem put_of_resolved {components : Table String Component} {first component : Component}
    (hfirst : components.lookup name = some first)
    (hstays : first.isResolved || !component.isResolved) :
    put name component components = components := by
  rw [put, hfirst]
  exact if_pos hstays

/-- Since a name is resolved always or never, no component ever takes the place of another, and the
first role of a name stays. -/
theorem Faithful.component?_add (h : a.Faithful index) (name other : String) (role : Role) :
    (a.add index name role).component? other =
      if other = name then some ((a.component? name).getD ⟨role, index.fields? name⟩)
      else a.component? other := by
  cases hfirst : a.component? name with
  | none =>
    exact (congrArg (List.lookup other) (put_of_new hfirst _)).trans
      (Table.lookup_insert name other _ a.components)
  | some first =>
    have hstays : (first.isResolved || !(index.fields? name).isSome) = true := by
      rw [Component.isResolved, h name first hfirst, Bool.or_not_self]
    have hkept : (a.add index name role).components = a.components :=
      put_of_resolved hfirst hstays
    rw [component?, hkept, ← component?]
    split
    · next heq => rw [heq, hfirst, Option.getD_some]
    · rfl

theorem Faithful.add (h : a.Faithful index) (name : String) (role : Role) :
    (a.add index name role).Faithful index := by
  intro other component hcomponent
  rw [h.component?_add] at hcomponent
  split at hcomponent
  · next heq =>
    subst heq
    cases hold : a.component? other with
    | none =>
      rw [hold] at hcomponent
      cases hcomponent
      rfl
    | some old =>
      rw [hold] at hcomponent
      cases hcomponent
      exact h other old hold
  · exact h other component hcomponent

theorem Faithful.withPayloads (h : a.Faithful index) (e : Endpoint) :
    (a.addPayloads index e).Faithful index :=
  (h.add e.requestType .request).add e.responseType .response

theorem Faithful.foldl_addPayloads (h : a.Faithful index) (es : List Endpoint) :
    (es.foldl (addPayloads index) a).Faithful index := by
  induction es generalizing a with
  | nil => exact h
  | cons e es ih => exact ih (h.withPayloads e)

/-- The second assembly keeps the components of the first. Whatever it adds or looks up besides is
reached from the roots, and what it adds is a shared record of the sources. -/
structure GrowsWithin (index : Index) (roots : List String) (a b : Assembly) : Prop where
  kept : ∀ name component, a.component? name = some component → b.component? name = some component
  added : ∀ name component, b.component? name = some component →
    a.component? name = some component ∨
      (Reachable index roots name ∧ component = ⟨.shared, index.fields? name⟩ ∧
        component.isResolved ∧ name ∈ b.consulted)
  consulted : ∀ name ∈ b.consulted, name ∈ a.consulted ∨ Reachable index roots name
  consulted_subset : a.consulted ⊆ b.consulted

theorem GrowsWithin.refl (index : Index) (roots : List String) (a : Assembly) :
    GrowsWithin index roots a a :=
  ⟨fun _ _ h => h, fun _ _ h => Or.inl h, fun _ h => Or.inl h, List.Subset.refl _⟩

theorem GrowsWithin.trans (hab : GrowsWithin index roots a b) (hbc : GrowsWithin index roots b c) :
    GrowsWithin index roots a c where
  kept name component h := hbc.kept name component (hab.kept name component h)
  added name component h := by
    rcases hbc.added name component h with h | hnew
    · rcases hab.added name component h with h | ⟨hreach, hshared, hresolved, hconsulted⟩
      · exact Or.inl h
      · exact Or.inr ⟨hreach, hshared, hresolved, hbc.consulted_subset hconsulted⟩
    · exact Or.inr hnew
  consulted name h := by
    rcases hbc.consulted name h with h | hreach
    · exact hab.consulted name h
    · exact Or.inr hreach
  consulted_subset := List.Subset.trans hab.consulted_subset hbc.consulted_subset

theorem growsWithin_consult (a : Assembly) (hreach : Reachable index roots name) :
    GrowsWithin index roots a { a with consulted := a.consulted ++ [name] } where
  kept _ _ h := h
  added _ _ h := Or.inl h
  consulted other h := by
    rcases List.mem_append.mp h with h | h
    · exact Or.inl h
    · rw [List.mem_singleton.mp h]
      exact Or.inr hreach
  consulted_subset := List.subset_append_left _ _

theorem growsWithin_addShared {fields : List FieldRecord} (hreach : Reachable index roots name)
    (hnew : a.component? name = none) (hfields : index.fields? name = some fields) :
    GrowsWithin index roots a (a.addShared name fields) where
  kept other component h := by
    rw [component?_addShared hnew, if_neg]
    · exact h
    · rintro rfl
      rw [hnew] at h
      cases h
  added other component h := by
    rw [component?_addShared hnew] at h
    split at h
    · next heq =>
      subst heq
      cases h
      have hconsulted := List.mem_append_right a.consulted (List.mem_singleton_self other)
      exact Or.inr ⟨hreach, by rw [hfields], rfl, hconsulted⟩
    · exact Or.inl h
  consulted := (growsWithin_consult a hreach).consulted
  consulted_subset := List.subset_append_left _ _

/-- A run of the work list stays within what is reached from the roots, if its names are. -/
theorem addReachable_growsWithin (index : Index) (a : Assembly) (names : List String)
    (hnames : ∀ name ∈ names, Reachable index roots name) :
    GrowsWithin index roots a (a.addReachable index names) := by
  fun_induction addReachable index a names with
  | case1 a => exact GrowsWithin.refl index roots a
  | case2 a name rest component hcomponent ih =>
      exact ih fun other hother => hnames other (List.mem_cons_of_mem _ hother)
  | case3 a name rest hnew hfields ih =>
      have hstep := growsWithin_consult a (hnames name List.mem_cons_self)
      exact hstep.trans (ih fun other hother => hnames other (List.mem_cons_of_mem _ hother))
  | case4 a name rest hnew fields hfields ih =>
      have hreach := hnames name List.mem_cons_self
      refine (growsWithin_addShared hreach hnew hfields).trans (ih ?_)
      intro other hother
      rcases List.mem_append.mp hother with hrest | href
      · exact hnames other (List.mem_cons_of_mem _ hrest)
      · refine hreach.step ?_
        rw [fieldReferences, hfields, Option.getD_some]
        exact href

theorem GrowsWithin.faithful (h : GrowsWithin index roots a b) (ha : a.Faithful index) :
    b.Faithful index := by
  intro name component hcomponent
  rcases h.added name component hcomponent with hold | ⟨-, rfl, -, -⟩
  · exact ha name component hold
  · rfl

/-- Where all that components refer to is settled, everything that is reached from settled names
is. -/
theorem Reachable.settled (h : Reachable index roots name) (hfaithful : a.Faithful index)
    (hroots : ∀ root ∈ roots, a.Settled index root)
    (hnested : ∀ entry ∈ a.components, ∀ name ∈ entry.2.references, a.Settled index name) :
    a.Settled index name := by
  induction h with
  | root h => exact hroots _ h
  | @step name other _ href ih =>
      rcases ih with hcomponent | ⟨-, hnone⟩
      · obtain ⟨component, hsome⟩ := Option.isSome_iff_exists.mp hcomponent
        rw [← hfaithful.references hsome] at href
        exact hnested (name, component) (Table.mem_of_lookup hsome) other href
      · rw [fieldReferences, hnone] at href
        cases href

/-- The payload types of endpoints. -/
def payloads (es : List Endpoint) : List String :=
  es.flatMap fun e => [e.requestType, e.responseType]

/-- The role in which endpoints use a type first, if it is a payload type. -/
def payloadRole? (es : List Endpoint) (name : String) : Option Role :=
  es.findSome? fun e =>
    if e.requestType = name then some .request
    else if e.responseType = name then some .response
    else none

theorem Faithful.component?_addPayloads (h : a.Faithful index) (e : Endpoint) (name : String) :
    (a.addPayloads index e).component? name =
      (a.component? name).or ((payloadRole? [e] name).map (⟨·, index.fields? name⟩)) := by
  rw [addPayloads, (h.add _ _).component?_add, h.component?_add, h.component?_add]
  by_cases hrequest : name = e.requestType
  · subst hrequest
    by_cases hresponse : e.requestType = e.responseType
    · rw [← hresponse]
      cases a.component? e.requestType <;> simp [payloadRole?]
    · cases a.component? e.requestType <;> simp [payloadRole?, hresponse]
  · by_cases hresponse : name = e.responseType
    · subst hresponse
      cases a.component? e.responseType <;> simp [payloadRole?, hrequest, Ne.symm hrequest]
    · simp [payloadRole?, hrequest, hresponse, Ne.symm hrequest, Ne.symm hresponse]

theorem Faithful.component?_foldl_addPayloads (h : a.Faithful index) (es : List Endpoint)
    (name : String) :
    (es.foldl (addPayloads index) a).component? name =
      (a.component? name).or ((payloadRole? es name).map (⟨·, index.fields? name⟩)) := by
  induction es generalizing a with
  | nil => simp [payloadRole?]
  | cons e es ih =>
      have hrole : payloadRole? (e :: es) name =
          (payloadRole? [e] name).or (payloadRole? es name) := by
        simp only [payloadRole?, List.findSome?_cons, List.findSome?_nil]
        split <;> simp_all
      rw [List.foldl_cons, ih (h.withPayloads e), h.component?_addPayloads, hrole, Option.or_assoc]
      cases payloadRole? [e] name <;> simp

theorem consulted_foldl_addPayloads (index : Index) (es : List Endpoint) (a : Assembly) :
    (es.foldl (addPayloads index) a).consulted = a.consulted ++ payloads es := by
  induction es generalizing a with
  | nil => simp [payloads]
  | cons e es ih =>
      rw [List.foldl_cons, ih]
      simp [addPayloads, add, payloads]

theorem payloadRole?_isSome_iff {es : List Endpoint} :
    (payloadRole? es name).isSome ↔ name ∈ payloads es := by
  rw [payloadRole?, List.findSome?_isSome_iff, payloads, List.mem_flatMap]
  refine exists_congr fun e => and_congr_right fun _ => ?_
  by_cases hrequest : e.requestType = name
  · simp [hrequest]
  · by_cases hresponse : e.responseType = name <;>
      simp [hrequest, hresponse, eq_comm (a := name)]

/-- A role that a type has is a role that some endpoint uses it in. -/
theorem exists_of_payloadRole? {es : List Endpoint} {role : Role}
    (h : payloadRole? es name = some role) :
    (role = .request ∧ ∃ e ∈ es, e.requestType = name) ∨
      (role = .response ∧ ∃ e ∈ es, e.responseType = name) := by
  obtain ⟨e, he, hrole⟩ := List.exists_of_findSome?_eq_some h
  split at hrole
  · next hrequest =>
    cases hrole
    exact Or.inl ⟨rfl, e, he, hrequest⟩
  · split at hrole
    · next hresponse =>
      cases hrole
      exact Or.inr ⟨rfl, e, he, hresponse⟩
    · cases hrole

/-- Where the search for shared components starts: with the types of declared responses and the
types that the fields of payload types refer to. -/
def searchRoots (index : Index) (es : List Endpoint) : List String :=
  es.flatMap declaredTypes ++ (payloads es).flatMap (fieldReferences index)

theorem Faithful.mem_references (h : a.Faithful index) :
    name ∈ a.references ↔
      ∃ other, (a.component? other).isSome ∧ name ∈ fieldReferences index other := by
  rw [Assembly.references, List.mem_flatMap]
  constructor
  · rintro ⟨⟨other, component⟩, hentry, href⟩
    have hcomponent : a.component? other = some component :=
      Table.lookup_of_mem a.sorted.nodup hentry
    refine ⟨other, by rw [hcomponent]; rfl, ?_⟩
    rwa [← h.references hcomponent]
  · rintro ⟨other, hother, href⟩
    obtain ⟨component, hcomponent⟩ := Option.isSome_iff_exists.mp hother
    refine ⟨(other, component), Table.mem_of_lookup hcomponent, ?_⟩
    rwa [h.references hcomponent]

theorem Faithful.isSome_component?_foldl_addPayloads (h : a.Faithful index) {es : List Endpoint} :
    ((es.foldl (addPayloads index) a).component? name).isSome ↔
      (a.component? name).isSome ∨ name ∈ payloads es := by
  rw [h.component?_foldl_addPayloads, ← payloadRole?_isSome_iff, Option.isSome_or,
    Option.isSome_map, Bool.or_eq_true]

/-- Where a search for shared components starts that other components come before: with the types
that their fields refer to besides. -/
def searchRootsFrom (index : Index) (a : Assembly) (es : List Endpoint) : List String :=
  es.flatMap declaredTypes ++ (a.references ++ (payloads es).flatMap (fieldReferences index))

theorem mem_references_foldl_addPayloads (h : a.Faithful index) (es : List Endpoint)
    (name : String) :
    name ∈ (es.foldl (addPayloads index) a).references ↔
      name ∈ a.references ++ (payloads es).flatMap (fieldReferences index) := by
  rw [(h.foldl_addPayloads es).mem_references,
    List.mem_append, h.mem_references, List.mem_flatMap]
  simp only [h.isSome_component?_foldl_addPayloads, or_and_right, exists_or]

theorem Faithful.growsWithin_addEndpoints (h : a.Faithful index) (es : List Endpoint) :
    GrowsWithin index (searchRootsFrom index a es) (es.foldl (addPayloads index) a)
      (a.addEndpoints index es) := by
  refine addReachable_growsWithin index _ _ ?_
  intro name hname
  rw [List.mem_append, mem_references_foldl_addPayloads h, ← List.mem_append] at hname
  exact .root hname

/-- Everything that the search reaches is settled by it. -/
theorem Faithful.settled_of_reachable (h : a.Faithful index) {es : List Endpoint}
    (hreach : Reachable index (searchRootsFrom index a es) name) :
    (a.addEndpoints index es).Settled index name := by
  have hgrows := h.growsWithin_addEndpoints es
  have hclosed := closed_addEndpoints index a es
  refine hreach.settled (hgrows.faithful (h.foldl_addPayloads es)) ?_ hclosed.nested
  intro root hroot
  rw [searchRootsFrom, List.mem_append, ← mem_references_foldl_addPayloads h] at hroot
  rcases hroot with hdeclared | hnested
  · obtain ⟨e, he, hroot⟩ := List.mem_flatMap.mp hdeclared
    exact hclosed.declared e he root hroot
  · -- A component from before the search is still one, with the same fields.
    obtain ⟨⟨other, found⟩, hentry, href⟩ := List.mem_flatMap.mp hnested
    have hnodup := (es.foldl (addPayloads index) a).sorted.nodup
    have hfound := hgrows.kept other found (Table.lookup_of_mem hnodup hentry)
    exact hclosed.nested (other, found) (Table.mem_of_lookup hfound) root href

theorem growsWithin_ofEndpoints (index : Index) (es : List Endpoint) :
    GrowsWithin index (searchRoots index es) (es.foldl (addPayloads index) {})
      (ofEndpoints index es) :=
  (faithful_empty index).growsWithin_addEndpoints es

theorem faithful_ofEndpoints (index : Index) (es : List Endpoint) :
    (ofEndpoints index es).Faithful index :=
  (growsWithin_ofEndpoints index es).faithful ((faithful_empty index).foldl_addPayloads es)

/-- A payload type is a component, under the role in which it is used first. -/
theorem component?_of_payloadRole? (index : Index) {es : List Endpoint} {role : Role}
    (h : payloadRole? es name = some role) :
    (ofEndpoints index es).component? name = some ⟨role, index.fields? name⟩ := by
  refine (growsWithin_ofEndpoints index es).kept name _ ?_
  rw [(faithful_empty index).component?_foldl_addPayloads, h]
  rfl

theorem settled_of_reachable {es : List Endpoint}
    (h : Reachable index (searchRoots index es) name) :
    (ofEndpoints index es).Settled index name :=
  (faithful_empty index).settled_of_reachable h

theorem added_ofEndpoints {es : List Endpoint} {component : Component}
    (hrole : payloadRole? es name = none)
    (h : (ofEndpoints index es).component? name = some component) :
    Reachable index (searchRoots index es) name ∧ component = ⟨.shared, index.fields? name⟩ ∧
      component.isResolved ∧ name ∈ (ofEndpoints index es).consulted := by
  refine ((growsWithin_ofEndpoints index es).added name component h).resolve_left ?_
  rw [(faithful_empty index).component?_foldl_addPayloads, hrole]
  exact nofun

/-- Any other component is a shared one, and is a record that the search reaches. -/
theorem component?_of_not_payload {es : List Endpoint} (hrole : payloadRole? es name = none)
    (component : Component) :
    (ofEndpoints index es).component? name = some component ↔
      Reachable index (searchRoots index es) name ∧
        component = ⟨.shared, index.fields? name⟩ ∧ component.isResolved := by
  constructor
  · intro h
    obtain ⟨hreach, hshared, hresolved, -⟩ := added_ofEndpoints hrole h
    exact ⟨hreach, hshared, hresolved⟩
  · rintro ⟨hreach, rfl, hresolved⟩
    rcases settled_of_reachable hreach with hcomponent | ⟨-, hnone⟩
    · obtain ⟨component, hsome⟩ := Option.isSome_iff_exists.mp hcomponent
      obtain ⟨-, rfl, -, -⟩ := added_ofEndpoints hrole hsome
      exact hsome
    · simp [Component.isResolved, hnone] at hresolved

/-- The names that are looked up are the payload types and what the search reaches. -/
theorem mem_consulted_ofEndpoints {es : List Endpoint} :
    name ∈ (ofEndpoints index es).consulted ↔
      name ∈ payloads es ∨ Reachable index (searchRoots index es) name := by
  have hgrows := growsWithin_ofEndpoints index es
  have hstart : (es.foldl (addPayloads index) {}).consulted = payloads es :=
    consulted_foldl_addPayloads index es {}
  have hpayload (h : name ∈ payloads es) : name ∈ (ofEndpoints index es).consulted :=
    hgrows.consulted_subset (hstart ▸ h)
  constructor
  · intro h
    rw [← hstart]
    exact hgrows.consulted name h
  · rintro (h | hreach)
    · exact hpayload h
    · rcases settled_of_reachable hreach with hcomponent | ⟨h, -⟩
      · obtain ⟨component, hsome⟩ := Option.isSome_iff_exists.mp hcomponent
        cases hrole : payloadRole? es name with
        | none => exact (added_ofEndpoints hrole hsome).2.2.2
        | some role => exact hpayload (payloadRole?_isSome_iff.mp (by rw [hrole]; rfl))
      · exact h

/-- Operations see the fields that the sources give to the request type. -/
theorem fieldsOf?_requestType (index : Index) {es : List Endpoint} {e : Endpoint} (he : e ∈ es) :
    (ofEndpoints index es).fieldsOf? e.requestType = index.fields? e.requestType := by
  have hpayload : e.requestType ∈ payloads es := List.mem_flatMap.mpr ⟨e, he, by simp⟩
  obtain ⟨role, hrole⟩ := Option.isSome_iff_exists.mp (payloadRole?_isSome_iff.mpr hpayload)
  rw [fieldsOf?, component?_of_payloadRole? index hrole, Option.bind_some]

end RouteContract.Assembly
