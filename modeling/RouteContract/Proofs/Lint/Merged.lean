import Mathlib.Tactic
import RouteContract.Proofs.Lint.Findings
import RouteContract.Proofs.Merge.Exactness
import RouteContract.Proofs.Table

/-!
Linting a merged contract. A merge leaves every path and every component schema as some fragment
has it, and the rules look at a path or a schema without looking around. Each finding about the
merged contract is therefore one about a fragment: the partial that has the path, or the first
fragment that defines the schema. Only that there is no path at all can be new, and it is not, if
some partial must have one.
-/

namespace RouteContract.Lint

open Merge (allDefinitions)

/-- The fragment is the one that what a finding is about came from. Of several fragments that define
a schema it is the first. -/
inductive ContributedBy (shared partials : List Fragment) : Subject → Fragment → Prop where
  | path {path : String} {f : Fragment} (mem : f ∈ partials)
      (has : path ∈ (f.entriesUnder "paths").map (·.1)) :
      ContributedBy shared partials (.path path) f
  | schema {name : String} {earlier later : List Fragment} {f : Fragment}
      (split : shared ++ partials = earlier ++ f :: later)
      (first : ∀ g ∈ earlier, name ∉ ((g.definitions? "schemas").getD []).map (·.1))
      (defines : name ∈ ((f.definitions? "schemas").getD []).map (·.1)) :
      ContributedBy shared partials (.schema name) f

theorem pathsOf_root (f : Fragment) : pathsOf f.root = f.entriesUnder "paths" :=
  (Fragment.entriesUnder_eq "paths" f).symm

theorem schemasOf_root (f : Fragment) : schemasOf f.root = (f.definitions? "schemas").getD [] := by
  rw [schemasOf, Fragment.definitions?_eq, Fragment.entriesUnder_eq]
  cases f.root.get? "components" with
  | none => rfl
  | some components => cases components <;> rfl

theorem schemasOf_document (info : ContractInfo) (paths : Merge.Entries)
    (sections : Merge.Sections) :
    schemasOf (Merge.document info paths sections) = (sections.lookup "schemas").getD [] := by
  have hlookup := Table.lookup_map_snd Json.obj sections "schemas"
  change ((List.lookup "schemas" (sections.map fun s => (s.1, Json.obj s.2))).bind
    Json.asObject?).getD [] = _
  rw [hlookup]
  cases sections.lookup "schemas" <;> rfl

/-- What a search in lists laid end to end finds, it finds in the first of them that has the key. -/
theorem exists_first_of_lookup_flatMap {α β : Type} (lay : α → List (String × β)) {xs : List α}
    {key : String} {value : β} (h : (xs.flatMap lay).lookup key = some value) :
    ∃ earlier x later, xs = earlier ++ x :: later ∧
      (∀ y ∈ earlier, key ∉ (lay y).map (·.1)) ∧ (lay x).lookup key = some value := by
  induction xs with
  | nil => cases h
  | cons x xs ih =>
      rw [List.flatMap_cons, List.lookup_append] at h
      cases hfound : (lay x).lookup key with
      | some found =>
          rw [hfound, Option.some_or] at h
          exact ⟨[], x, xs, rfl, by simp, hfound.trans h⟩
      | none =>
          rw [hfound, Option.none_or] at h
          obtain ⟨earlier, y, later, rfl, hearlier, hy⟩ := ih h
          refine ⟨x :: earlier, y, later, rfl, ?_, hy⟩
          intro z hz
          rcases List.mem_cons.mp hz with rfl | hz
          · exact Table.lookup_eq_none_iff.mp hfound
          · exact hearlier z hz

section Findings

variable {o : Options} {info : ContractInfo} {schemas responses security : Fragment}
  {partials : List Fragment} {root : Json}

theorem findings_of_merge (hmerge : merge info schemas responses security partials = .ok root)
    (requirePaths : Bool) :
    o.findings root requirePaths = o.pathsFindings root requirePaths ++
      (schemasOf root).flatMap o.schemaFindings := by
  obtain ⟨-, rfl⟩ := Merge.merge_eq_ok_iff.mp hmerge
  exact findings_of_version o requirePaths rfl

theorem pathsOf_of_merge (hmerge : merge info schemas responses security partials = .ok root) :
    pathsOf root = partials.flatMap (Fragment.entriesUnder "paths") := by
  obtain ⟨-, rfl⟩ := Merge.merge_eq_ok_iff.mp hmerge
  rw [← Merge.pathEntries_inOrder schemas responses security partials]
  rfl

theorem schemasOf_of_merge (hmerge : merge info schemas responses security partials = .ok root) :
    schemasOf root = Json.firsts
      (allDefinitions (schemas :: responses :: security :: partials) "schemas") := by
  obtain ⟨-, rfl⟩ := Merge.merge_eq_ok_iff.mp hmerge
  rw [schemasOf_document, Merge.lookup_gather, Merge.definitionsIn_inOrder]

theorem exists_partial_of_entry
    (hmerge : merge info schemas responses security partials = .ok root)
    {entry : String × Json} (hentry : entry ∈ pathsOf root) :
    ∃ f, ContributedBy [schemas, responses, security] partials (.path entry.1) f ∧
      f ∈ partials ∧ entry ∈ pathsOf f.root := by
  rw [pathsOf_of_merge hmerge] at hentry
  obtain ⟨f, hf, hpath⟩ := List.mem_flatMap.mp hentry
  exact ⟨f, .path hf (List.mem_map_of_mem hpath), hf, pathsOf_root f ▸ hpath⟩

theorem exists_fragment_of_schema
    (hmerge : merge info schemas responses security partials = .ok root)
    {schema : String × Json} (hschema : schema ∈ schemasOf root) :
    ∃ f, ContributedBy [schemas, responses, security] partials (.schema schema.1) f ∧
      f ∈ schemas :: responses :: security :: partials ∧ schema ∈ schemasOf f.root := by
  have hfound : (allDefinitions (schemas :: responses :: security :: partials)
      "schemas").lookup schema.1 = some schema.2 := by
    rw [schemasOf_of_merge hmerge] at hschema
    rw [← Json.lookup_firsts]
    exact Table.lookup_of_mem (Json.nodup_map_fst_firsts _) hschema
  obtain ⟨earlier, f, later, hsplit, hearlier, hf⟩ := exists_first_of_lookup_flatMap _ hfound
  have hmem : f ∈ schemas :: responses :: security :: partials := by
    rw [hsplit]
    exact List.mem_append_right _ List.mem_cons_self
  refine ⟨f, .schema hsplit hearlier (Table.mem_keys_of_lookup hf), hmem, ?_⟩
  rw [schemasOf_root]
  exact Table.mem_of_lookup hf

/-- A finding about the merged contract is one about the fragment that what it concerns came
from. -/
theorem exists_fragment_of_finding
    (hmerge : merge info schemas responses security partials = .ok root)
    (hversions : ∀ f ∈ schemas :: responses :: security :: partials,
      (f.root.get? "openapi").isSome)
    {requirePaths : Bool} {finding : Finding} (hfinding : finding ∈ o.findings root requirePaths)
    (hpaths : finding ≠ .noPaths) :
    ∃ f ∈ schemas :: responses :: security :: partials,
      ContributedBy [schemas, responses, security] partials finding.subject f ∧
      ∀ requirePaths, finding ∈ o.findings f.root requirePaths := by
  rw [findings_of_merge hmerge, pathsFindings_eq, List.mem_append, List.mem_append] at hfinding
  rcases hfinding with (hnone | hpath) | hschema
  · split at hnone
    · exact absurd (List.mem_singleton.mp hnone) hpaths
    · cases hnone
  · obtain ⟨entry, hentry, hfound⟩ := List.mem_flatMap.mp hpath
    obtain ⟨f, hcontributed, hf, hown⟩ := exists_partial_of_entry hmerge hentry
    have hmem : f ∈ schemas :: responses :: security :: partials := by simp [hf]
    refine ⟨f, hmem, ?_, ?_⟩
    · rw [subject_of_mem_entryFindings hfound]
      exact hcontributed
    · exact mem_findings_of_entry (hversions f hmem) hown hfound
  · obtain ⟨schema, hschema, hfound⟩ := List.mem_flatMap.mp hschema
    obtain ⟨f, hcontributed, hf, hown⟩ := exists_fragment_of_schema hmerge hschema
    refine ⟨f, hf, ?_, ?_⟩
    · rw [subject_of_mem_schemaFindings hfound]
      exact hcontributed
    · exact mem_findings_of_schema (hversions f hf) hown hfound

/-- A partial that is clean has a path, and so has the merged contract. -/
theorem noPaths_not_mem_of_merge
    (hmerge : merge info schemas responses security partials = .ok root)
    (hpartials : ∀ f ∈ partials, o.findings f.root true = []) (hsome : partials ≠ []) :
    .noPaths ∉ o.findings root true := by
  obtain ⟨f, hf⟩ := List.exists_mem_of_ne_nil partials hsome
  have hpaths : pathsOf root ≠ [] := by
    rw [pathsOf_of_merge hmerge]
    intro hempty
    have hnone := List.flatMap_eq_nil_iff.mp hempty f hf
    exact pathsOf_ne_nil_of_findings (hpartials f hf) ((pathsOf_root f).trans hnone)
  rw [findings_of_merge hmerge, List.mem_append, noPaths_mem_pathsFindings_iff]
  rintro (⟨hempty, -⟩ | hschema)
  · exact hpaths hempty
  · obtain ⟨schema, -, hfound⟩ := List.mem_flatMap.mp hschema
    have hsubject := subject_of_mem_schemaFindings hfound
    cases hsubject

end Findings

/-- Linting a merged contract shows nothing that linting its fragments does not. If the shared
fragments and the partials are clean and there is a partial, the merged contract is clean. And if
all fragments have a version, every message about the merged contract, unless it says that there is
no path, is a message about a fragment that contributed what it concerns, but for the name of the
document. -/
theorem lint_merged (o : Options) (info : ContractInfo) (schemas responses security : Fragment)
    (partials : List Fragment) (root : Json)
    (hmerge : merge info schemas responses security partials = .ok root) :
    ((∀ f ∈ [schemas, responses, security], o.lint f.name f.root false = []) →
      (∀ f ∈ partials, o.lint f.name f.root true = []) → partials ≠ [] →
      o.lint "merged" root true = []) ∧
    ((∀ f ∈ schemas :: responses :: security :: partials, (f.root.get? "openapi").isSome) →
      ∀ message ∈ o.lint "merged" root true, message ≠ Finding.noPaths.message "merged" →
        ∃ finding : Finding, message = finding.message "merged" ∧
          ∃ f ∈ schemas :: responses :: security :: partials,
            ContributedBy [schemas, responses, security] partials finding.subject f ∧
            ∀ requirePaths, finding.message f.name ∈ o.lint f.name f.root requirePaths) := by
  constructor
  · intro hshared hpartials hsome
    simp only [lint_eq_nil_iff] at hshared hpartials ⊢
    have hclean : ∀ f ∈ schemas :: responses :: security :: partials,
        ∃ requirePaths, o.findings f.root requirePaths = [] := by
      intro f hf
      by_cases hpartial : f ∈ partials
      · exact ⟨true, hpartials f hpartial⟩
      · refine ⟨false, hshared f ?_⟩
        simp only [List.mem_cons] at hf ⊢
        tauto
    have hversions : ∀ f ∈ schemas :: responses :: security :: partials,
        (f.root.get? "openapi").isSome := by
      intro f hf
      obtain ⟨_, hnil⟩ := hclean f hf
      exact version_of_findings_eq_nil hnil
    apply List.eq_nil_iff_forall_not_mem.mpr
    intro finding hfinding
    by_cases hnone : finding = .noPaths
    · subst hnone
      exact noPaths_not_mem_of_merge hmerge hpartials hsome hfinding
    · obtain ⟨f, hf, -, hfound⟩ := exists_fragment_of_finding hmerge hversions hfinding hnone
      obtain ⟨requirePaths, hnil⟩ := hclean f hf
      have hmem := hfound requirePaths
      rw [hnil] at hmem
      cases hmem
  · intro hversions message hmessage hnone
    obtain ⟨finding, hfinding, rfl⟩ := List.mem_map.mp hmessage
    have hpaths : finding ≠ .noPaths := by
      rintro rfl
      exact hnone rfl
    obtain ⟨f, hf, hcontributed, hfound⟩ :=
      exists_fragment_of_finding hmerge hversions hfinding hpaths
    refine ⟨finding, rfl, f, hf, hcontributed, ?_⟩
    intro requirePaths
    exact List.mem_map_of_mem (hfound requirePaths)

/-- A clean contract of one partial, and the message about it under a rule that a shared fragment
breaks. -/
theorem lint_merged_items :
    let shared : Fragment := ⟨"shared", "shared.json", .obj [("openapi", .str "3.1.0"),
      ("components", .obj [("schemas", .obj [("Login",
        .obj [("properties", .obj [("password", .obj [])])])])])], "", rfl⟩
    let items : Fragment := ⟨"items", "items.json", .obj [("openapi", .str "3.1.0"),
      ("paths", .obj [("/v1/items", .obj [])])], "", rfl⟩
    let strict : Options := { sensitiveNames := ["password"] }
    ∃ root, merge {} shared shared shared [items] = .ok root ∧
      Options.lint {} "merged" root true = [] ∧
      ∃ finding : Finding, strict.lint "merged" root true = [finding.message "merged"] ∧
        ∃ f ∈ [shared, shared, shared, items],
          ContributedBy [shared, shared, shared] [items] finding.subject f ∧
          ∀ requirePaths, finding.message f.name ∈ strict.lint f.name f.root requirePaths := by
  intro shared items strict
  have hclean := (lint_merged {} {} shared shared shared [items] _ rfl).1
    (by decide) (by decide) (by decide)
  obtain ⟨finding, hmessage, hfragment⟩ :=
    (lint_merged strict {} shared shared shared [items] _ rfl).2 (by decide)
      "merged: sensitive field 'password' in schema 'Login' must include description"
      (by decide) (by decide)
  exact ⟨_, rfl, hclean, finding, hmessage ▸ rfl, hfragment⟩

end RouteContract.Lint
