import Mathlib.Tactic
import RouteContract.Proofs.Merge.Incremental

/-!
The order of fragments. Whether fragments merge does not depend on the order in which they are read,
and neither does what the contract says: only the order of its members does. The merge keeps the
first definition of a component, and which one comes first changes with the order, but a merge that
succeeds has found all of them to be the same.
-/

namespace RouteContract

/-- Objects with the same names are the same if they hold the same value under each name. -/
theorem Json.same_obj_of_lookup {as bs : List (String × Json)} (has : (as.map (·.1)).Nodup)
    (hbs : (bs.map (·.1)).Nodup) (hnames : ∀ name, name ∈ as.map (·.1) ↔ name ∈ bs.map (·.1))
    (hvalues : ∀ name a b, as.lookup name = some a → bs.lookup name = some b → a.same b) :
    (Json.obj as).same (.obj bs) := by
  have hperm : (as.map (·.1)).Perm (bs.map (·.1)) :=
    (List.perm_ext_iff_of_nodup has hbs).mpr hnames
  refine (Json.same_obj_iff as _).mpr ⟨bs, rfl, by simpa using hperm.length_eq, ?_⟩
  intro m hm
  have hname : m.1 ∈ bs.map (·.1) := (hnames m.1).mp (List.mem_map_of_mem hm)
  obtain ⟨b, hb⟩ := Option.isSome_iff_exists.mp (Table.lookup_isSome_iff.mpr hname)
  exact ⟨b, hb, hvalues m.1 m.2 b (Table.lookup_of_mem has hm) hb⟩

namespace Merge

open Contribution

variable {fragments fragments' partials partials' : List Fragment}
  {schemas responses security schemas' responses' security' : Fragment}

theorem disjointPaths_perm (h : partials.Perm partials') :
    DisjointPaths partials ↔ DisjointPaths partials' := by
  refine h.pairwise_iff ?_
  intro f g hdisjoint path hg hf
  exact hdisjoint path hf hg

theorem allDefinitions_perm (h : fragments.Perm fragments') (name : String) :
    (allDefinitions fragments name).Perm (allDefinitions fragments' name) :=
  h.flatMap_right _

theorem consistent_perm {entries entries' : Entries} (h : entries.Perm entries') :
    Consistent entries ↔ Consistent entries' := by
  simp only [Consistent, h.mem_iff]

theorem fragments_perm
    (hshared : [schemas, responses, security].Perm [schemas', responses', security'])
    (hpartials : partials.Perm partials') :
    (schemas :: responses :: security :: partials).Perm
      (schemas' :: responses' :: security' :: partials') :=
  hshared.append hpartials

theorem accepted_perm
    (hshared : [schemas, responses, security].Perm [schemas', responses', security'])
    (hpartials : partials.Perm partials') :
    Accepted (inOrder schemas responses security partials) ↔
      Accepted (inOrder schemas' responses' security' partials') := by
  have hfragments := fragments_perm hshared hpartials
  rw [accepted_inOrder_iff, accepted_inOrder_iff, disjointPaths_perm hpartials]
  simp only [consistent_perm (allDefinitions_perm hfragments _)]

theorem same_paths_of_perm (hdisjoint : DisjointPaths partials) (h : partials.Perm partials') :
    (Json.obj (partials.flatMap (Fragment.entriesUnder "paths"))).same
      (.obj (partials'.flatMap (Fragment.entriesUnder "paths"))) := by
  have hentries : (partials.flatMap (Fragment.entriesUnder "paths")).Perm
      (partials'.flatMap (Fragment.entriesUnder "paths")) :=
    h.flatMap_right _
  have hnodup := (nodup_flatMap_paths_iff partials).mpr hdisjoint
  have hnodup' := (nodup_flatMap_paths_iff partials').mpr ((disjointPaths_perm h).mp hdisjoint)
  refine Json.same_obj_of_lookup hnodup hnodup' (fun name => (hentries.map _).mem_iff) ?_
  intro path a b ha hb
  -- No path comes from two partials, so both orders find the one entry that has it.
  have hmem : (path, b) ∈ partials.flatMap (Fragment.entriesUnder "paths") :=
    hentries.mem_iff.mpr (Table.mem_of_lookup hb)
  have heq : a = b := Option.some.inj (ha.symm.trans (Table.lookup_of_mem hnodup hmem))
  obtain ⟨f, -, hf⟩ := List.mem_flatMap.mp hmem
  have hdistinct := ((Json.hasDistinctNames_obj _).mp (f.distinct_entriesUnder "paths")).2 _ hf
  rw [heq]
  exact Json.same_refl b hdistinct

/-- Sections that hold what the fragments define, in one order and in another, are the same: under
each key either holds one of its definitions. -/
theorem HoldsDefinitions.same {sections sections' : List (String × Json)}
    (hfragments : fragments.Perm fragments')
    (hconsistent : ∀ name, Consistent (allDefinitions fragments name))
    (h : HoldsDefinitions fragments sections) (h' : HoldsDefinitions fragments' sections') :
    (Json.obj sections).same (.obj sections') := by
  refine Json.same_obj_of_lookup h.sections_distinct h'.sections_distinct ?_ ?_
  · intro name
    rw [h.mem_sections, h'.mem_sections]
    simp only [hfragments.mem_iff]
  · intro name body body' hbody hbody'
    obtain ⟨entries, rfl, hdistinct, hkeys, hlookup⟩ :=
      h.definitions name body (Table.mem_of_lookup hbody)
    obtain ⟨entries', rfl, hdistinct', hkeys', hlookup'⟩ :=
      h'.definitions name body' (Table.mem_of_lookup hbody')
    refine Json.same_obj_of_lookup hdistinct hdistinct' ?_ ?_
    · intro key
      rw [hkeys, hkeys']
      simp only [hfragments.mem_iff]
    · intro key a b ha hb
      rw [hlookup] at ha
      rw [hlookup'] at hb
      have hmem : (key, b) ∈ allDefinitions fragments name :=
        (allDefinitions_perm hfragments name).mem_iff.mpr (Table.mem_of_lookup hb)
      exact hconsistent name (key, a) (Table.mem_of_lookup ha) (key, b) hmem rfl

theorem same_document (info : ContractInfo) {paths paths' : Entries} {sections sections' : Sections}
    (hpaths : (Json.obj paths).same (.obj paths'))
    (hsections : (Json.obj (sections.map fun (name, entries) => (name, .obj entries))).same
      (.obj (sections'.map fun (name, entries) => (name, .obj entries)))) :
    (document info paths sections).same (document info paths' sections') := by
  refine (Json.same_obj_iff _ _).mpr ⟨_, rfl, rfl, ?_⟩
  simp only [List.forall_mem_cons]
  refine ⟨⟨_, rfl, ?_⟩, ⟨_, rfl, ?_⟩, ⟨_, rfl, ?_⟩, ⟨_, rfl, hpaths⟩, ⟨_, rfl, hsections⟩,
    List.forall_mem_nil _⟩
  all_goals exact Json.same_refl _ rfl

/-- Fragments merge in any order of the partials and of the shared fragments or in none, and the
contracts that they merge to differ in the order of members only. -/
theorem merge_perm (info : ContractInfo)
    (hshared : [schemas, responses, security].Perm [schemas', responses', security'])
    (hpartials : partials.Perm partials') :
    ((∃ root, merge info schemas responses security partials = .ok root) ↔
      ∃ root, merge info schemas' responses' security' partials' = .ok root) ∧
    ∀ root root', merge info schemas responses security partials = .ok root →
      merge info schemas' responses' security' partials' = .ok root' → root.same root' := by
  refine ⟨?_, ?_⟩
  · simp only [merge_eq_ok_iff, exists_and_left, exists_eq, and_true]
    exact accepted_perm hshared hpartials
  · intro root root' hroot hroot'
    obtain ⟨haccepted, rfl⟩ := merge_eq_ok_iff.mp hroot
    obtain ⟨-, rfl⟩ := merge_eq_ok_iff.mp hroot'
    obtain ⟨hdisjoint, hconsistent⟩ :=
      (accepted_inOrder_iff schemas responses security partials).mp haccepted
    refine same_document info ?_ ?_
    · rw [pathEntries_inOrder, pathEntries_inOrder]
      exact same_paths_of_perm hdisjoint hpartials
    · exact (holdsDefinitions_gather schemas responses security partials).same
        (fragments_perm hshared hpartials) hconsistent
        (holdsDefinitions_gather schemas' responses' security' partials')

/-- Two partials in either order, which share a schema that each writes in its own way. -/
theorem merge_perm_items :
    let shared (name : String) : Fragment := ⟨name, name,
      .obj [("components", .obj [(name, .obj [])])], "", rfl⟩
    let items : Fragment := ⟨"items", "items.json",
      .obj [("paths", .obj [("/v1/items", .null)]), ("components", .obj [("schemas", .obj [("Id",
        .obj [("type", .str "string"), ("format", .str "uuid")]), ("Item", .obj [])])])], "", rfl⟩
    let orders : Fragment := ⟨"orders", "orders.json",
      .obj [("paths", .obj [("/v1/orders", .null)]), ("components", .obj [("schemas", .obj [("Id",
        .obj [("format", .str "uuid"), ("type", .str "string")])])])], "", rfl⟩
    let merged := merge {} (shared "a") (shared "b") (shared "c") [items, orders]
    let merged' := merge {} (shared "c") (shared "a") (shared "b") [orders, items]
    [shared "a", shared "b", shared "c"].Perm [shared "c", shared "a", shared "b"] ∧
      [items, orders].Perm [orders, items] ∧
      ∃ root root', merged = .ok root ∧ merged' = .ok root' ∧ root.same root' := by
  intro shared items orders merged merged'
  have hshared : [shared "a", shared "b", shared "c"].Perm [shared "c", shared "a", shared "b"] :=
    show ([shared "a", shared "b"] ++ [shared "c"]).Perm ([shared "c"] ++ _) from
      List.perm_append_comm
  have hpartials : [items, orders].Perm [orders, items] := .swap _ _ _
  have hsame := (merge_perm {} hshared hpartials).2
  exact ⟨hshared, hpartials, _, _, rfl, rfl, hsame _ _ rfl rfl⟩

end Merge

end RouteContract
