import Mathlib.Tactic
import RouteContract.Proofs.Merge.Exactness
import RouteContract.Proofs.Table

/-!
Merging step by step. A merged contract is itself a fragment, and in place of the partials it came
from it leads every further merge to the same end: the same contract, its order included, or the
same failure.

The shared fragments come before the merged contract a second time. It begins with what they
define, section by section and key by key, so reading it adds nothing in a new place: what is known
is skipped as the same, and what is not follows in the order in which it was merged at first.
-/

namespace RouteContract.Merge

open Contribution
open Json (firsts)

variable {info : ContractInfo} {schemas responses security f : Fragment}
  {partials : List Fragment} {paths : Entries} {sections : Sections}

theorem paths_of_root (h : f.root = document info paths sections) :
    f.entriesUnder "paths" = paths := by
  rw [Fragment.entriesUnder, h]
  rfl

theorem components_of_root (h : f.root = document info paths sections) :
    f.entriesUnder "components" = sections.map fun s => (s.1, .obj s.2) := by
  rw [Fragment.entriesUnder, h]
  rfl

theorem definitions?_of_root (h : f.root = document info paths sections) (name : String) :
    f.definitions? name = sections.lookup name := by
  rw [Fragment.definitions?_eq, components_of_root h, Table.lookup_map_snd Json.obj]
  cases sections.lookup name <;> rfl

/-- Each name of distinct sections is met first where its section begins. -/
theorem eraseDups_sectionNames {sections : Sections} (h : (sections.map (·.1)).Nodup) :
    (sectionNames ((sections.map fun s => (s.1, Json.obj s.2)).flatMap ofSection)).eraseDups =
      sections.map (·.1) := by
  induction sections using List.reverseRecOn with
  | nil => rfl
  | append_singleton sections last ih =>
      rw [List.map_append, List.map_singleton, ← List.concat_eq_append, List.nodup_concat] at h
      have hnew : last.1 ∉ sectionNames
          ((sections.map fun s => (s.1, Json.obj s.2)).flatMap ofSection) := by
        rw [← List.mem_eraseDups, ih h.2]
        exact h.1
      have hlast : ((last.1 :: last.2.map fun _ => last.1).removeAll (sectionNames
          ((sections.map fun s => (s.1, Json.obj s.2)).flatMap ofSection))).eraseDups =
          [last.1] := by
        rw [List.removeAll, List.filter_eq_self.mpr, List.eraseDups_cons]
        · simp
        · simp [hnew]
      rw [List.map_append, List.flatMap_append, sectionNames_append, List.eraseDups_append, ih h.2,
        List.map_singleton, List.flatMap_singleton, sectionNames_ofSection_obj, hlast,
        List.map_append, List.map_singleton]

/-- What contributions make up, read again behind the first of them, makes up the same. -/
theorem gather_append_of_root {cs ds : List Contribution}
    (h : f.root = document info paths (gather (cs ++ ds))) :
    gather (cs ++ ofPartial f) = gather (cs ++ ds) := by
  have hdistinct : ((gather (cs ++ ds)).map (·.1)).Nodup :=
    map_fst_gather _ ▸ Json.nodup_eraseDups _
  have hagain : (sectionNames (ofPartial f)).eraseDups =
      (sectionNames cs ++ sectionNames ds).eraseDups := by
    rw [sectionNames_ofPartial, ofComponents, components_of_root h,
      eraseDups_sectionNames hdistinct, map_fst_gather, sectionNames_append]
  have hnames : (sectionNames (cs ++ ofPartial f)).eraseDups =
      (sectionNames (cs ++ ds)).eraseDups := by
    rw [sectionNames_append, sectionNames_append]
    exact Json.eraseDups_append_of_eraseDups hagain
  have hdefinitions (name : String) : firsts (definitionsIn name (cs ++ ofPartial f)) =
      firsts (definitionsIn name (cs ++ ds)) := by
    rw [definitionsIn_append, definitionsIn_ofPartial, definitions?_of_root h, lookup_gather,
      definitionsIn_append, Json.firsts_append_firsts]
  rw [gather, hnames, gather]
  simp only [hdefinitions]

theorem distinct_gather (schemas responses security : Fragment) (partials : List Fragment) :
    (Json.obj ((gather (inOrder schemas responses security partials)).map fun (name, entries) =>
      (name, .obj entries))).hasDistinctNames := by
  have hholds := holdsDefinitions_gather schemas responses security partials
  refine (Json.hasDistinctNames_obj _).mpr ⟨hholds.sections_distinct, ?_⟩
  rintro ⟨name, body⟩ hbody
  obtain ⟨entries, rfl, hkeys, -, hlookup⟩ := hholds.definitions name body hbody
  refine (Json.hasDistinctNames_obj _).mpr ⟨hkeys, ?_⟩
  intro entry hentry
  have hfirst := (hlookup entry.1).symm.trans (Table.lookup_of_mem hkeys hentry)
  exact distinct_of_mem_allDefinitions (Table.mem_of_lookup hfirst)

theorem distinct_document (hpaths : (Json.obj paths).hasDistinctNames)
    (hsections : (Json.obj (sections.map fun (name, entries) =>
      (name, .obj entries))).hasDistinctNames) :
    (document info paths sections).hasDistinctNames := by
  have hnames : ["openapi", "info", "servers", "paths", "components"].Nodup := by decide
  rw [document, Json.hasDistinctNames_obj]
  refine ⟨hnames, ?_⟩
  simp only [List.forall_mem_cons]
  exact ⟨rfl, rfl, rfl, hpaths, hsections, fun m hm => nomatch hm⟩

theorem distinct_of_accepted
    (h : Accepted (inOrder schemas responses security partials)) :
    (document info (pathEntries (inOrder schemas responses security partials))
      (gather (inOrder schemas responses security partials))).hasDistinctNames := by
  refine distinct_document ?_ (distinct_gather schemas responses security partials)
  obtain ⟨hdisjoint, -⟩ := (accepted_inOrder_iff schemas responses security partials).mp h
  rw [pathEntries_inOrder, Json.hasDistinctNames_obj]
  refine ⟨(nodup_flatMap_paths_iff partials).mpr hdisjoint, ?_⟩
  intro entry hentry
  obtain ⟨g, -, hg⟩ := List.mem_flatMap.mp hentry
  exact ((Json.hasDistinctNames_obj _).mp (g.distinct_entriesUnder "paths")).2 entry hg

theorem combine_append (schemas responses security : Fragment) (partials more : List Fragment) :
    combine schemas responses security (partials ++ more) =
      combine schemas responses security partials >>= fun merged =>
        more.foldlM addPartial merged := by
  rw [combine, combine]
  cases [schemas, responses, security].foldlM addComponents [] with
  | error e => rfl
  | ok sections => exact List.foldlM_append

/-- Nothing that the merged contract defines disagrees with a shared fragment, since all of it is
among the definitions that agreed when it was merged. -/
theorem consistent_of_root
    (hroot : f.root = document info paths (gather (inOrder schemas responses security partials)))
    (name : String)
    (h : Consistent (allDefinitions (schemas :: responses :: security :: partials) name)) :
    Consistent (allDefinitions [schemas, responses, security, f] name) := by
  have hsub : allDefinitions [schemas, responses, security, f] name ⊆
      allDefinitions (schemas :: responses :: security :: partials) name := by
    intro entry hentry
    obtain ⟨g, hg, hdefined⟩ := List.mem_flatMap.mp hentry
    by_cases hshared : g ∈ [schemas, responses, security]
    · refine List.mem_flatMap.mpr ⟨g, ?_, hdefined⟩
      simp only [List.mem_cons] at hshared ⊢
      tauto
    · have hgf : g = f := by
        simp only [List.mem_cons] at hg hshared
        tauto
      rw [hgf, definitions?_of_root hroot, lookup_gather, definitionsIn_inOrder] at hdefined
      exact Json.mem_of_mem_firsts hdefined
  intro x hx y hy hkey
  exact h x (hsub hx) y (hsub hy) hkey

/-- The merged contract leads to the state that its partials lead to. -/
theorem combine_of_root (haccepted : Accepted (inOrder schemas responses security partials))
    (hroot : f.root = document info (pathEntries (inOrder schemas responses security partials))
      (gather (inOrder schemas responses security partials))) :
    combine schemas responses security [f] = combine schemas responses security partials := by
  have hinOrder : inOrder schemas responses security [f] =
      [schemas, responses, security].flatMap ofComponents ++ ofPartial f := by
    rw [inOrder, List.flatMap_singleton]
  have hagain : Accepted (inOrder schemas responses security [f]) := by
    refine (accepted_inOrder_iff schemas responses security [f]).mpr ⟨?_, ?_⟩
    · exact List.pairwise_singleton _ f
    · intro name
      have hconsistent := (accepted_inOrder_iff schemas responses security partials).mp haccepted
      exact consistent_of_root hroot name (hconsistent.2 name)
  have hpaths : pathEntries (inOrder schemas responses security [f]) =
      pathEntries (inOrder schemas responses security partials) := by
    rw [pathEntries_inOrder, List.flatMap_singleton, paths_of_root hroot]
  have hsections : gather (inOrder schemas responses security [f]) =
      gather (inOrder schemas responses security partials) := by
    rw [hinOrder]
    exact gather_append_of_root hroot
  rw [combine_of_accepted hagain, combine_of_accepted haccepted, hpaths, hsections]

/-- Merging in steps. If some partials merge, their contract is a fragment like any other, and
merging it and further partials gives what merging all of them gives: the same contract, or the same
error. Merging it alone changes nothing. -/
theorem merge_incremental (info : ContractInfo) (schemas responses security : Fragment)
    (partials : List Fragment) (root : Json)
    (hmerge : merge info schemas responses security partials = .ok root) :
    root.hasDistinctNames ∧ ∀ f : Fragment, f.root = root →
      (∀ more, merge info schemas responses security (f :: more) =
        merge info schemas responses security (partials ++ more)) ∧
      merge info schemas responses security [f] = .ok root := by
  obtain ⟨haccepted, hdocument⟩ := merge_eq_ok_iff.mp hmerge
  refine ⟨hdocument ▸ distinct_of_accepted haccepted, ?_⟩
  intro f hf
  have hstate := combine_of_root haccepted (hf.trans hdocument)
  have hmore (more : List Fragment) : merge info schemas responses security (f :: more) =
      merge info schemas responses security (partials ++ more) := by
    have hcons : f :: more = [f] ++ more := rfl
    rw [merge, merge, hcons, combine_append, combine_append, hstate]
  refine ⟨hmore, ?_⟩
  rw [hmore [], List.append_nil, hmerge]

/-- A contract of items, merged before a fragment of orders that repeats one of its schemas. -/
theorem merge_incremental_items :
    let shared : Fragment := ⟨"shared", "shared.json",
      .obj [("components", .obj [("schemas", .obj [("Id", .obj [])])])], "", rfl⟩
    let items : Fragment := ⟨"items", "items.json",
      .obj [("paths", .obj [("/v1/items", .null)]), ("components", .obj [("headers", .obj []),
        ("schemas", .obj [("Item", .obj []), ("Id", .obj [])])])], "", rfl⟩
    let orders : Fragment := ⟨"orders", "orders.json",
      .obj [("paths", .obj [("/v1/orders", .null)]), ("components", .obj [("schemas",
        .obj [("Item", .obj []), ("Order", .obj [])])])], "", rfl⟩
    ∃ root, merge {} shared shared shared [items] = .ok root ∧
      root.hasDistinctNames ∧ ∀ f : Fragment, f.root = root →
        merge {} shared shared shared [f, orders] =
          merge {} shared shared shared [items, orders] := by
  intro shared items orders
  obtain ⟨hdistinct, hmore⟩ := merge_incremental {} shared shared shared [items] _ rfl
  exact ⟨_, rfl, hdistinct, fun f hf => (hmore f hf).1 [orders]⟩

end RouteContract.Merge
