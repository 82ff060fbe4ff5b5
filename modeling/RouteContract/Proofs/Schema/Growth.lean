import RouteContract.Proofs.Schema.Description
import RouteContract.Proofs.Schema.Fields
import RouteContract.Proofs.Schema.Reachability

/-!
Assemblies that grow call by call. A call adds components and never changes one: what it records
under a new name is the role that the call has for the name and the fields that the sources give
it. So every component tells which call came first, and the names after adding endpoints are the
least set that has the names before, the payload types, and the records that fields lead to.
-/

namespace RouteContract

namespace Source.Index

variable {index : Index} {name : String}

theorem fieldsOf_eq_of_fields? {fields : List FieldRecord} (h : index.fields? name = some fields) :
    index.fieldsOf name = .ok (some fields) := by
  rw [fields?] at h
  split at h
  · next hanswer => rw [hanswer, h]
  · cases h

/-- Where the sources have an answer for a name, it has fields if and only if it is declared as a
record. -/
theorem fields?_isSome_iff (hanswer : index.fieldsOf name = .ok (index.fields? name)) :
    (index.fields? name).isSome ↔ ∃ decl, index.lookupType? name = some (.record decl) := by
  constructor
  · intro h
    obtain ⟨fields, hfields⟩ := Option.isSome_iff_exists.mp h
    obtain ⟨decl, hdecl, -⟩ := exists_of_fieldsWithin (fieldsOf_eq_of_fields? hfields)
    exact ⟨decl, hdecl⟩
  · rintro ⟨decl, hdecl⟩
    rw [fieldsOf, fieldsWithin_of_record hdecl] at hanswer
    obtain ⟨rows, -, hrows⟩ := Except.bind_eq_ok hanswer
    rw [← Except.ok.inj hrows]
    rfl

end Source.Index

namespace Assembly

open Source (Index)

variable {index : Index} {a b : Assembly} {name : String} {component : Component}
  {es : List Endpoint}

theorem fieldsOf_of_consulted (hends : a.breakdown? index = none) (hname : name ∈ a.consulted) :
    index.fieldsOf name = .ok (index.fields? name) := by
  have hanswer := List.findSome?_eq_none_iff.mp hends name hname
  rw [Index.fields?]
  cases hfields : index.fieldsOf name with
  | ok fields => rfl
  | error b =>
    rw [hfields] at hanswer
    cases hanswer

/-- Where no alias leads back to itself, fields cannot be looked up only because an import renames
a raw name. -/
theorem raw_of_breakdown? (hacyclic : index.Acyclic) {reason : Source.Breakdown}
    (h : a.breakdown? index = some reason) :
    ∃ entry ∈ index.renames, Index.isRawName entry.2 ∧ reason = .rawName entry.2 := by
  obtain ⟨name, -, hname⟩ := List.exists_of_findSome?_eq_some h
  split at hname
  · next b hfields =>
    cases hname
    obtain ⟨t, ht⟩ := Index.exists_of_fieldsWithin_error hfields
    exact hacyclic.raw_of_describe ht
  · cases hname

/-- What can be asked of an assembly: one type under a role, or everything that endpoints need. -/
inductive Call where
  | add (name : String) (role : Role)
  | endpoints (es : List Endpoint)

namespace Call

def apply (index : Index) (a : Assembly) : Call → Assembly
  | add name role => a.add index name role
  | endpoints es => a.addEndpoints index es

/-- The role under which a call records a name. -/
def role (name : String) : Call → Role
  | add _ role => role
  | endpoints es => (payloadRole? es name).getD .shared

/-- The names that a call records, unless they are there. -/
def Records (index : Index) (a : Assembly) (name : String) : Call → Prop
  | add other _ => name = other
  | endpoints es => name ∈ payloads es ∨
      ((index.fields? name).isSome ∧ Reachable index (searchRootsFrom index a es) name)

end Call

/-- The assembly after some calls. -/
def run (index : Index) (calls : List Call) : Assembly :=
  calls.foldl (Call.apply index) {}

theorem run_append (index : Index) (calls later : List Call) :
    run index (calls ++ later) = later.foldl (Call.apply index) (run index calls) :=
  List.foldl_append

/-- What every call preserves: components have the fields of the sources, which have been looked
up. -/
structure Sound (index : Index) (a : Assembly) : Prop where
  faithful : a.Faithful index
  consulted : ∀ name, (a.component? name).isSome → name ∈ a.consulted

theorem sound_empty (index : Index) : ({} : Assembly).Sound index :=
  ⟨faithful_empty index, fun _ h => nomatch h⟩

theorem Sound.add (h : a.Sound index) (name : String) (role : Role) :
    (a.add index name role).Sound index := by
  refine ⟨h.faithful.add name role, fun other hother => ?_⟩
  rcases (isSome_component?_add index a name other role).mp hother with heq | hold
  · exact List.mem_append_right _ (List.mem_singleton.mpr heq)
  · exact List.mem_append_left _ (h.consulted other hold)

theorem Sound.foldl_addPayloads (h : a.Sound index) (es : List Endpoint) :
    (es.foldl (addPayloads index) a).Sound index := by
  induction es generalizing a with
  | nil => exact h
  | cons e es ih => exact ih ((h.add e.requestType .request).add e.responseType .response)

theorem Sound.growsWithin (h : a.Sound index) (es : List Endpoint) :
    GrowsWithin index (searchRootsFrom index a es) (es.foldl (addPayloads index) a)
      (a.addEndpoints index es) :=
  h.faithful.growsWithin_addEndpoints es

theorem Sound.addEndpoints (h : a.Sound index) (es : List Endpoint) :
    (a.addEndpoints index es).Sound index := by
  have hstart := h.foldl_addPayloads es
  have hgrows := h.growsWithin es
  refine ⟨hgrows.faithful hstart.faithful, ?_⟩
  intro name hname
  obtain ⟨component, hcomponent⟩ := Option.isSome_iff_exists.mp hname
  rcases hgrows.added name component hcomponent with hold | ⟨-, -, -, hconsulted⟩
  · exact hgrows.consulted_subset (hstart.consulted name (by rw [hold]; rfl))
  · exact hconsulted

theorem Sound.apply (h : a.Sound index) (call : Call) : (call.apply index a).Sound index := by
  cases call with
  | add name role => exact h.add name role
  | endpoints es => exact h.addEndpoints es

theorem Sound.foldl_apply (h : a.Sound index) (calls : List Call) :
    (calls.foldl (Call.apply index) a).Sound index := by
  induction calls generalizing a with
  | nil => exact h
  | cons call calls ih => exact ih (h.apply call)

theorem sound_run (index : Index) (calls : List Call) : (run index calls).Sound index :=
  (sound_empty index).foldl_apply calls

/-- A component after adding endpoints was there before, or is recorded by this call. -/
theorem component?_of_addEndpoints (h : a.Sound index)
    (hcomponent : (a.addEndpoints index es).component? name = some component) :
    a.component? name = some component ∨
      (a.component? name = none ∧ Call.Records index a name (.endpoints es) ∧
        component = ⟨Call.role name (.endpoints es), index.fields? name⟩) := by
  have hgrows := h.growsWithin es
  cases hstart : (es.foldl (addPayloads index) a).component? name with
  | some found =>
    -- The search keeps what the payload types gave.
    have hfound := hgrows.kept name found hstart
    rw [hcomponent, Option.some.injEq] at hfound
    subst hfound
    rw [h.faithful.component?_foldl_addPayloads] at hstart
    rcases Option.or_eq_some_iff.mp hstart with hold | ⟨hnone, hnew⟩
    · exact Or.inl hold
    · obtain ⟨role, hrole, rfl⟩ := Option.map_eq_some_iff.mp hnew
      have hpayload : name ∈ payloads es := payloadRole?_isSome_iff.mp (by rw [hrole]; rfl)
      refine Or.inr ⟨hnone, Or.inl hpayload, ?_⟩
      rw [Call.role, hrole, Option.getD_some]
  | none =>
    have hsearched : ¬ (es.foldl (addPayloads index) a).component? name = some component := by
      rw [hstart]
      exact nofun
    obtain ⟨hreach, rfl, hresolved, -⟩ :=
      (hgrows.added name component hcomponent).resolve_left hsearched
    rw [h.faithful.component?_foldl_addPayloads, Option.or_eq_none_iff,
      Option.map_eq_none_iff] at hstart
    refine Or.inr ⟨hstart.1, Or.inr ⟨hresolved, hreach⟩, ?_⟩
    rw [Call.role, hstart.2, Option.getD_none]

theorem Sound.settled_of_reachable (h : a.Sound index)
    (hreach : Reachable index (searchRootsFrom index a es) name) :
    (a.addEndpoints index es).Settled index name :=
  h.faithful.settled_of_reachable hreach

theorem Sound.consulted_of_reachable (h : a.Sound index)
    (hreach : Reachable index (searchRootsFrom index a es) name) :
    name ∈ (a.addEndpoints index es).consulted := by
  rcases h.settled_of_reachable hreach with hcomponent | ⟨hconsulted, -⟩
  · exact (h.addEndpoints es).consulted name hcomponent
  · exact hconsulted

theorem isSome_component?_of_records (h : a.Sound index)
    (hrecords : (a.component? name).isSome ∨ Call.Records index a name (.endpoints es)) :
    ((a.addEndpoints index es).component? name).isSome := by
  have hstart (hname : (a.component? name).isSome ∨ name ∈ payloads es) :
      ((a.addEndpoints index es).component? name).isSome := by
    obtain ⟨found, hfound⟩ :=
      Option.isSome_iff_exists.mp (h.faithful.isSome_component?_foldl_addPayloads.mpr hname)
    rw [(h.growsWithin es).kept name found hfound]
    rfl
  rcases hrecords with hold | hpayload | ⟨hresolved, hreach⟩
  · exact hstart (Or.inl hold)
  · exact hstart (Or.inr hpayload)
  · rcases h.settled_of_reachable hreach with hcomponent | ⟨-, hnone⟩
    · exact hcomponent
    · rw [hnone] at hresolved
      cases hresolved

/-- What a call does: it keeps every component, and records new names in one way. -/
theorem Sound.component?_apply (h : a.Sound index) (call : Call) :
    (call.apply index a).component? name = some component ↔
      a.component? name = some component ∨
        (a.component? name = none ∧ call.Records index a name ∧
          component = ⟨call.role name, index.fields? name⟩) := by
  cases call with
  | add other role =>
    rw [Call.apply, h.faithful.component?_add]
    by_cases hname : name = other
    · subst hname
      cases a.component? name <;> simp [Call.Records, Call.role, eq_comm]
    · simp [Call.Records, hname]
  | endpoints es =>
    refine ⟨component?_of_addEndpoints h, fun hcomponent => ?_⟩
    have hsome : ((a.addEndpoints index es).component? name).isSome := by
      refine isSome_component?_of_records h ?_
      rcases hcomponent with hold | ⟨-, hrecords, -⟩
      · exact Or.inl (by rw [hold]; rfl)
      · exact Or.inr hrecords
    obtain ⟨found, hfound⟩ := Option.isSome_iff_exists.mp hsome
    have hsame : found = component := by
      rcases component?_of_addEndpoints h hfound with hold' | ⟨hnone', -, hnew'⟩ <;>
        rcases hcomponent with hold | ⟨hnone, -, hnew⟩
      · exact Option.some.inj (hold'.symm.trans hold)
      · rw [hnone] at hold'; cases hold'
      · rw [hnone'] at hold; cases hold
      · exact hnew'.trans hnew.symm
    exact hsame ▸ hfound

/-- Only by name a call records a shared type without fields. -/
theorem Call.eq_add_of_unresolved {call : Call} (hrecords : call.Records index a name)
    (hrole : call.role name = .shared) (hfields : index.fields? name = none) :
    call = .add name .shared := by
  cases call with
  | add other role =>
    cases hrecords
    exact congrArg (Call.add name) hrole
  | endpoints es =>
    rcases hrecords with hpayload | ⟨hresolved, -⟩
    · obtain ⟨role, hsome⟩ := Option.isSome_iff_exists.mp (payloadRole?_isSome_iff.mpr hpayload)
      rw [Call.role, hsome, Option.getD_some] at hrole
      subst hrole
      rcases exists_of_payloadRole? hsome with ⟨h, -⟩ | ⟨h, -⟩ <;> cases h
    · rw [hfields] at hresolved
      cases hresolved

/-- Further calls keep every component. -/
theorem Sound.component?_foldl_apply (h : a.Sound index) (calls : List Call)
    (hcomponent : a.component? name = some component) :
    (calls.foldl (Call.apply index) a).component? name = some component := by
  induction calls generalizing a with
  | nil => exact hcomponent
  | cons call calls ih =>
    exact ih (h.apply call) ((h.component?_apply call).mpr (Or.inl hcomponent))

/-- Every component was recorded by one call, the first that records its name. -/
theorem exists_call_of_run {calls : List Call}
    (h : (run index calls).component? name = some component) :
    ∃ before call after, calls = before ++ call :: after ∧
      (run index before).component? name = none ∧ call.Records index (run index before) name ∧
      component = ⟨call.role name, index.fields? name⟩ := by
  induction calls using List.reverseRecOn with
  | nil => cases h
  | append_singleton before call ih =>
    rw [run_append, List.foldl_cons, List.foldl_nil,
      (sound_run index before).component?_apply call] at h
    rcases h with hold | ⟨hnone, hrecords, hcomponent⟩
    · obtain ⟨earlier, first, after, rfl, hfirst⟩ := ih hold
      exact ⟨earlier, first, after ++ [call], by simp, hfirst⟩
    · exact ⟨before, call, [], rfl, hnone, hrecords, hcomponent⟩

/-- Adding endpoints to what any calls have assembled, where no alias leads back to itself. Fields
are looked up without a failure, for every graph of types, unless an import renames a raw name. The
names are then the least set that has the names from before, the payload types, and every declared
record that is reached from declared responses or from the fields of components. After any calls, a
component has the fields that the sources answer for its name, no later call changes it, it has the
role of the first call that records its name, and a shared one without fields was asked for. -/
theorem addEndpoints_least_closed (hacyclic : index.Acyclic) (calls : List Call) :
    let a := run index calls
    (∀ es, let b := a.addEndpoints index es
      (∀ reason, b.breakdown? index = some reason →
        ∃ entry ∈ index.renames, Index.isRawName entry.2 ∧ reason = .rawName entry.2) ∧
      (b.breakdown? index = none → ∀ name, (b.component? name).isSome ↔
        (a.component? name).isSome ∨ name ∈ payloads es ∨
          (∃ decl, index.lookupType? name = some (.record decl)) ∧
            Reachable index (searchRootsFrom index a es) name)) ∧
    (a.breakdown? index = none → ∀ name component, a.component? name = some component →
      index.fieldsOf name = .ok component.fields ∧
      (∀ later, (run index (calls ++ later)).component? name = some component) ∧
      (∃ before call after, calls = before ++ call :: after ∧
        (run index before).component? name = none ∧
        (run index (before ++ [call])).component? name = some component ∧
        component.role = call.role name) ∧
      (component.role = .shared → component.isResolved = false → .add name .shared ∈ calls)) := by
  intro a
  have hsound : a.Sound index := sound_run index calls
  refine ⟨fun es => ⟨fun reason => raw_of_breakdown? hacyclic, fun hends name => ?_⟩,
    fun hends name component hcomponent => ?_⟩
  · constructor
    · intro h
      obtain ⟨component, hcomponent⟩ := Option.isSome_iff_exists.mp h
      rcases component?_of_addEndpoints hsound hcomponent with hold | ⟨-, hpayload | hnew, -⟩
      · exact Or.inl (by rw [hold]; rfl)
      · exact Or.inr (Or.inl hpayload)
      · have hanswer := fieldsOf_of_consulted hends (hsound.consulted_of_reachable hnew.2)
        exact Or.inr (Or.inr ⟨(Index.fields?_isSome_iff hanswer).mp hnew.1, hnew.2⟩)
    · rintro (hold | hpayload | ⟨hdecl, hreach⟩)
      · exact isSome_component?_of_records hsound (Or.inl hold)
      · exact isSome_component?_of_records hsound (Or.inr (Or.inl hpayload))
      · have hanswer := fieldsOf_of_consulted hends (hsound.consulted_of_reachable hreach)
        have hfields := (Index.fields?_isSome_iff hanswer).mpr hdecl
        exact isSome_component?_of_records hsound (Or.inr (Or.inr ⟨hfields, hreach⟩))
  · refine ⟨?_, fun later => ?_, ?_⟩
    · have hconsulted := hsound.consulted name (by rw [hcomponent]; rfl)
      rw [fieldsOf_of_consulted hends hconsulted, hsound.faithful name component hcomponent]
    · rw [run_append]
      exact hsound.component?_foldl_apply later hcomponent
    · obtain ⟨before, call, after, hcalls, hnone, hrecords, hnew⟩ := exists_call_of_run hcomponent
      have hfirst : (run index (before ++ [call])).component? name = some component := by
        rw [run_append, List.foldl_cons, List.foldl_nil,
          (sound_run index before).component?_apply call]
        exact Or.inr ⟨hnone, hrecords, hnew⟩
      refine ⟨⟨before, call, after, hcalls, hnone, hfirst, by rw [hnew]⟩, ?_⟩
      intro hrole hunresolved
      rw [hnew] at hrole hunresolved
      have hfields : index.fields? name = none := by simpa [Component.isResolved] using hunresolved
      rw [hcalls, Call.eq_add_of_unresolved hrecords hrole hfields]
      exact List.mem_append_right _ List.mem_cons_self

/-- Types that refer to each other through an alias, after a type that is not declared was asked
for: the search goes round once, and leaves out a type that is not declared. -/
theorem addEndpoints_least_closed_cycle :
    let link : Source.TypeExpr := .named {} "Option" true [.named {} "Box" true [.ofName "Node"]]
    let index := Index.ofFiles [{ path := "lib.rs", items := [
      .typeAlias "Link" link [],
      .imports [("Mark", "Label")] [],
      .record { name := "Page", fields := [⟨"first", .ofName "Link", []⟩] } [],
      .record { name := "Node", fields :=
        [⟨"next", .ofName "Link", []⟩, ⟨"mark", .ofName "Mark", []⟩] } []] }]
    let calls := [Call.add "Ghost" .shared]
    let es : List Endpoint :=
      [{ verb := .get, path := "/", requestType := "Query", responseType := "Page" }]
    let b := (run index calls).addEndpoints index es
    index.Acyclic ∧ b.breakdown? index = none ∧ (b.component? "Node").isSome ∧
    ¬ (b.component? "Label").isSome ∧
    (run index (calls ++ [.endpoints es])).component? "Ghost" = some ⟨.shared, none⟩ := by
  intro link index calls es b
  let rank (name : String) : Nat := if name = "Link" ∨ name = "Mark" then 1 else 0
  have hacyclic : index.Acyclic :=
    Index.acyclic_of_rank rank (by decide +kernel) (by decide +kernel)
  obtain ⟨hadded, hkept⟩ := addEndpoints_least_closed hacyclic calls
  have hends : b.breakdown? index = none := by
    cases hreason : b.breakdown? index with
    | none => rfl
    | some reason =>
      obtain ⟨entry, hentry, hraw, -⟩ := (hadded es).1 reason hreason
      have hplain : ∀ entry ∈ index.renames, ¬ Index.isRawName entry.2 := by decide +kernel
      exact absurd hraw (hplain entry hentry)
  have hnames := (hadded es).2 hends
  have hnode : "Node" ∈ searchRootsFrom index (run index calls) es := by decide +kernel
  refine ⟨hacyclic, hends, (hnames "Node").mpr ?_, fun hlabel => ?_, ?_⟩
  · exact Or.inr (Or.inr ⟨⟨_, rfl⟩, .root hnode⟩)
  · rcases (hnames "Label").mp hlabel with hold | hpayload | ⟨⟨decl, hdecl⟩, -⟩
    · exact absurd hold (by decide +kernel)
    · exact absurd hpayload (by decide +kernel)
    · cases hdecl
  · have hghost := hkept (by decide +kernel) "Ghost" ⟨.shared, none⟩ (by decide +kernel)
    exact hghost.2.1 [.endpoints es]

/-- A field whose type is a raw name under the new name that an import gives it: the search breaks
down where it should add the record. -/
theorem addEndpoints_of_raw_rename :
    let index := Index.ofFiles [{ path := "lib.rs", items := [
      .imports [("Kind", "r#type")] [],
      .record { name := "Item", fields := [⟨"kind", .ofName "Kind", []⟩] } []] }]
    let es : List Endpoint :=
      [{ verb := .get, path := "/", requestType := "Item", responseType := "Item" }]
    index.Acyclic ∧
    ((run index []).addEndpoints index es).breakdown? index = some (.rawName "r#type") := by
  intro index es
  let rank (name : String) : Nat := if name = "Kind" then 1 else 0
  refine ⟨Index.acyclic_of_rank rank (by decide +kernel) (by decide +kernel), ?_⟩
  let start := es.foldl (addPayloads index) (run index [])
  have hwaiting : es.flatMap declaredTypes ++ start.references = [] := by decide +kernel
  change (start.addReachable index (es.flatMap declaredTypes ++ start.references)).breakdown?
    index = _
  rw [hwaiting, addReachable]
  decide +kernel

end Assembly

end RouteContract
