import RouteContract.Document.Build
import RouteContract.Proofs.Table

/-!
The operations of a document. Adding endpoints one after the other gives exactly one operation for
the first endpoint of every verb and path, whatever the order in which the tables keep them, and
every table on the way is in order.
-/

namespace RouteContract

theorem Verb.key_injective : Function.Injective Verb.key := by
  intro v w h
  revert h
  cases v <;> cases w <;> decide

namespace Document

variable {a : Assembly} {paths : Table String PathItem} {e : Endpoint}

/-- The operations of a table of paths, each with its path and the key of its verb. -/
def operations (paths : Table String PathItem) : List (String × String × Operation) :=
  paths.flatMap fun (path, item) =>
    item.operations.map fun (verb, operation) => (path, verb, operation)

/-- The endpoints whose verb and path are not among those seen, nor those of one before them. -/
def emittedAfter (seen : List (String × Verb)) : List Endpoint → List Endpoint
  | [] => []
  | e :: es =>
      if seen.contains (e.path, e.verb) then emittedAfter seen es
      else e :: emittedAfter ((e.path, e.verb) :: seen) es

/-- The endpoints that a document has operations for: the first of every verb and path. -/
def emitted (es : List Endpoint) : List Endpoint := emittedAfter [] es

/-- The operation of an endpoint at its place. -/
def placed (a : Assembly) (e : Endpoint) : String × String × Operation :=
  (e.path, e.verb.key, Operation.ofEndpoint (a.fieldsOf? e.requestType) e)

theorem addEndpoint_of_hasOperation (h : hasOperation paths e.path e.verb.key) :
    addEndpoint a paths e = paths := by
  unfold addEndpoint
  exact if_pos h

theorem addEndpoint_of_new (h : ¬ hasOperation paths e.path e.verb.key) :
    addEndpoint a paths e = paths.insert e.path (((paths.lookup e.path).getD {}).insert e.verb.key
      (Operation.ofEndpoint (a.fieldsOf? e.requestType) e)) := by
  unfold addEndpoint
  exact if_neg h

/-- Every operation stands under the key of a verb. -/
def UnderVerbs (paths : Table String PathItem) : Prop :=
  ∀ entry ∈ paths, ∀ key ∈ entry.2.operations.map (·.1), ∃ v : Verb, key = v.key

theorem underVerbs_nil : UnderVerbs [] :=
  fun _ h => nomatch h

theorem UnderVerbs.lookup (h : UnderVerbs paths) (path : String) :
    ∀ key ∈ ((paths.lookup path).getD {}).operations.map (·.1), ∃ v : Verb, key = v.key := by
  cases hitem : paths.lookup path with
  | none => exact fun _ hkey => nomatch hkey
  | some item => exact h _ (Table.mem_of_lookup hitem)

theorem UnderVerbs.addEndpoint (h : UnderVerbs paths) (a : Assembly) (e : Endpoint) :
    UnderVerbs (addEndpoint a paths e) := by
  by_cases hold : hasOperation paths e.path e.verb.key
  · rwa [addEndpoint_of_hasOperation hold]
  · rw [addEndpoint_of_new hold]
    intro entry hentry key hkey
    rcases Table.mem_insert hentry with rfl | hmem
    · rcases Table.mem_keys_insert.mp hkey with rfl | hkey
      · exact ⟨e.verb, rfl⟩
      · exact h.lookup e.path key hkey
    · exact h entry hmem key hkey

theorem underVerbs_pathsOf (a : Assembly) (es : List Endpoint) : UnderVerbs (pathsOf a es) := by
  have hrun (paths : Table String PathItem) (h : UnderVerbs paths) :
      UnderVerbs (es.foldl (addEndpoint a) paths) := by
    induction es generalizing paths with
    | nil => exact h
    | cons e es ih => exact ih _ (h.addEndpoint a e)
  exact hrun [] underVerbs_nil

/-- A new endpoint adds its operation and leaves all others. -/
theorem operations_addEndpoint (hsorted : paths.Sorted)
    (h : ¬ hasOperation paths e.path e.verb.key) :
    (operations (addEndpoint a paths e)).Perm (placed a e :: operations paths) := by
  rw [addEndpoint_of_new h]
  have habsent : e.verb.key ∉ ((paths.lookup e.path).getD {}).operations.map (·.1) := by
    rw [← Table.lookup_isSome_iff]
    exact h
  have hitem := Table.insert_perm_of_not_mem
    (Operation.ofEndpoint (a.fieldsOf? e.requestType) e) habsent
  cases hpath : paths.lookup e.path with
  | none =>
      have hnew := Table.lookup_eq_none_iff.mp hpath
      exact (Table.insert_perm_of_not_mem _ hnew).flatMap_right _
  | some item =>
      rw [hpath, Option.getD_some] at hitem
      obtain ⟨before, after, hsplit, hinsert⟩ := hsorted.insert_of_lookup
        (item.insert e.verb.key (Operation.ofEndpoint (a.fieldsOf? e.requestType) e)) hpath
      rw [Option.getD_some, hinsert, hsplit]
      simp only [operations, List.flatMap_append, List.flatMap_cons]
      refine List.Perm.trans ?_ List.perm_middle
      exact ((hitem.map _).append_right _).append_left _

theorem hasOperation_addEndpoint (path verb : String) :
    hasOperation (addEndpoint a paths e) path verb ↔
      (path = e.path ∧ verb = e.verb.key) ∨ hasOperation paths path verb := by
  by_cases h : hasOperation paths e.path e.verb.key
  · rw [addEndpoint_of_hasOperation h]
    constructor
    · exact Or.inr
    · rintro (⟨rfl, rfl⟩ | hold)
      · exact h
      · exact hold
  · rw [addEndpoint_of_new h, hasOperation, Table.lookup_insert]
    by_cases hpath : path = e.path
    · subst hpath
      rw [if_pos rfl, Option.getD_some, PathItem.insert, Table.lookup_insert, hasOperation]
      by_cases hverb : verb = e.verb.key <;> simp [hverb]
    · rw [if_neg hpath, hasOperation]
      simp [hpath]

/-- Adding endpoints to paths whose operations are those of the places seen. -/
theorem foldl_addEndpoint (a : Assembly) (es : List Endpoint) (seen : List (String × Verb))
    (hsorted : paths.Sorted)
    (hseen : ∀ path v, (path, v) ∈ seen ↔ hasOperation paths path v.key) :
    (operations (es.foldl (addEndpoint a) paths)).Perm
      ((emittedAfter seen es).map (placed a) ++ operations paths) := by
  induction es generalizing paths seen with
  | nil => exact List.Perm.refl _
  | cons e es ih =>
      rw [List.foldl_cons, emittedAfter]
      by_cases hrepeat : (e.path, e.verb) ∈ seen
      · rw [if_pos (List.contains_iff_mem.mpr hrepeat),
          addEndpoint_of_hasOperation ((hseen _ _).mp hrepeat)]
        exact ih seen hsorted hseen
      · have hnew : ¬ hasOperation paths e.path e.verb.key := fun h => hrepeat ((hseen _ _).mpr h)
        have hseen' : ∀ path v, (path, v) ∈ (e.path, e.verb) :: seen ↔
            hasOperation (addEndpoint a paths e) path v.key := by
          intro path v
          rw [List.mem_cons, hasOperation_addEndpoint, hseen, Prod.mk.injEq,
            Verb.key_injective.eq_iff]
        have hlater := ih _ (sorted_addEndpoint a paths e hsorted) hseen'
        rw [if_neg (fun h => hrepeat (List.contains_iff_mem.mp h)), List.map_cons, List.cons_append]
        refine hlater.trans ?_
        exact ((operations_addEndpoint hsorted hnew).append_left _).trans List.perm_middle

/-- The operations of a document are those of the emitted endpoints, each once. -/
theorem operations_pathsOf (a : Assembly) (es : List Endpoint) :
    (operations (pathsOf a es)).Perm ((emitted es).map (placed a)) := by
  have hrun := foldl_addEndpoint a es [] Table.sorted_nil (by simp [hasOperation])
  rwa [show operations [] = [] from rfl, List.append_nil] at hrun

theorem emittedAfter_subset (seen : List (String × Verb)) (es : List Endpoint) :
    emittedAfter seen es ⊆ es := by
  induction es generalizing seen with
  | nil => simp [emittedAfter]
  | cons e es ih =>
      rw [emittedAfter]
      split
      · exact List.subset_cons_of_subset _ (ih seen)
      · exact List.cons_subset_cons _ (ih _)

/-- Every operation of a document is that of an endpoint. -/
theorem exists_endpoint_of_operation {es : List Endpoint} {path verb : String} {item : PathItem}
    {operation : Operation} (hitem : (path, item) ∈ pathsOf a es)
    (hoperation : (verb, operation) ∈ item.operations) :
    ∃ e ∈ es, operation = Operation.ofEndpoint (a.fieldsOf? e.requestType) e := by
  have hmem : (path, verb, operation) ∈ operations (pathsOf a es) := by
    refine List.mem_flatMap.mpr ⟨(path, item), hitem, ?_⟩
    exact List.mem_map.mpr ⟨(verb, operation), hoperation, rfl⟩
  obtain ⟨e, he, heq⟩ := List.mem_map.mp ((operations_pathsOf a es).mem_iff.mp hmem)
  refine ⟨e, emittedAfter_subset [] es he, ?_⟩
  cases heq
  rfl

/-- The operation that stands under a path and the key of a verb. -/
def operation? (paths : Table String PathItem) (path key : String) : Option Operation :=
  ((paths.lookup path).getD {}).operations.lookup key

theorem operation?_addEndpoint (path key : String) :
    operation? (addEndpoint a paths e) path key =
      if e.path = path ∧ e.verb.key = key then
        some ((operation? paths path key).getD
          (Operation.ofEndpoint (a.fieldsOf? e.requestType) e))
      else operation? paths path key := by
  by_cases h : hasOperation paths e.path e.verb.key
  · rw [addEndpoint_of_hasOperation h]
    split
    · next hplace =>
      obtain ⟨rfl, rfl⟩ := hplace
      obtain ⟨operation, hfound⟩ := Option.isSome_iff_exists.mp h
      rw [operation?, hfound, Option.getD_some]
    · rfl
  · have hnone : operation? paths e.path e.verb.key = none := Option.not_isSome_iff_eq_none.mp h
    rw [addEndpoint_of_new h]
    by_cases hpath : e.path = path
    · subst hpath
      rw [operation?, Table.lookup_insert, if_pos rfl, Option.getD_some, PathItem.insert,
        Table.lookup_insert]
      by_cases hkey : key = e.verb.key
      · subst hkey
        rw [if_pos rfl, if_pos ⟨rfl, rfl⟩, hnone, Option.getD_none]
      · rw [if_neg hkey, if_neg fun hplace => hkey hplace.2.symm]
        rfl
    · rw [operation?, Table.lookup_insert, if_neg fun heq => hpath heq.symm,
        if_neg fun hplace => hpath hplace.1]
      rfl

/-- A run of endpoints keeps the operations that are there and adds that of the first endpoint of
every other place. -/
theorem operation?_foldl (a : Assembly) (es : List Endpoint) (paths : Table String PathItem)
    (path key : String) :
    operation? (es.foldl (addEndpoint a) paths) path key =
      (operation? paths path key).or
        ((es.find? fun e => e.path = path ∧ e.verb.key = key).map fun e =>
          Operation.ofEndpoint (a.fieldsOf? e.requestType) e) := by
  induction es generalizing paths with
  | nil => simp
  | cons e es ih =>
      rw [List.foldl_cons, ih, operation?_addEndpoint]
      by_cases hplace : e.path = path ∧ e.verb.key = key
      · rw [if_pos hplace, List.find?_cons_of_pos (by simpa using hplace), Option.some_or,
          Option.map_some]
        cases operation? paths path key <;> rfl
      · rw [if_neg hplace, List.find?_cons_of_neg (by simpa using hplace)]

/-- The operation of a document under a path and a key is that of the first endpoint there. -/
theorem operation?_pathsOf (a : Assembly) (es : List Endpoint) (path key : String) :
    operation? (pathsOf a es) path key =
      (es.find? fun e => e.path = path ∧ e.verb.key = key).map fun e =>
        Operation.ofEndpoint (a.fieldsOf? e.requestType) e :=
  (operation?_foldl a es [] path key).trans Option.none_or

/-- An emitted endpoint has its own operation in its place. -/
theorem operation?_of_emitted (a : Assembly) {es : List Endpoint} (he : e ∈ emitted es) :
    operation? (pathsOf a es) e.path e.verb.key =
      some (Operation.ofEndpoint (a.fieldsOf? e.requestType) e) := by
  have hplaced : placed a e ∈ operations (pathsOf a es) :=
    (operations_pathsOf a es).mem_iff.mpr (List.mem_map_of_mem he)
  obtain ⟨⟨path, item⟩, hpath, hitem⟩ := List.mem_flatMap.mp hplaced
  obtain ⟨⟨verb, operation⟩, hverb, heq⟩ := List.mem_map.mp hitem
  cases heq
  rw [operation?, Table.lookup_of_mem (sorted_pathsOf a es).nodup hpath, Option.getD_some]
  exact Table.lookup_of_mem item.sorted.nodup hverb

theorem items_ne_nil_addEndpoint (h : ∀ entry ∈ paths, entry.2.operations ≠ []) :
    ∀ entry ∈ addEndpoint a paths e, entry.2.operations ≠ [] := by
  unfold addEndpoint
  dsimp only
  split
  · exact h
  · intro entry hentry
    rcases Table.mem_insert hentry with rfl | hold
    · exact Table.insert_ne_nil _ _ _
    · exact h entry hold

/-- Every path of a document has an operation. -/
theorem items_ne_nil_pathsOf (a : Assembly) (es : List Endpoint) :
    ∀ entry ∈ pathsOf a es, entry.2.operations ≠ [] := by
  have hrun (paths : Table String PathItem) (h : ∀ entry ∈ paths, entry.2.operations ≠ []) :
      ∀ entry ∈ es.foldl (addEndpoint a) paths, entry.2.operations ≠ [] := by
    induction es generalizing paths with
    | nil => exact h
    | cons e es ih => exact ih _ (items_ne_nil_addEndpoint h)
  exact hrun [] (by simp)

end Document

end RouteContract
