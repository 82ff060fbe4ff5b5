import Mathlib.Tactic
import RouteContract.Proofs.Json.Sameness
import RouteContract.Proofs.Merge.Fragments

/-!
When a merge succeeds, what it holds, and how it fails, said about the fragments and not about the
order in which they are read. A merge succeeds exactly if no path occurs in two partials and all
definitions of a component are the same. Its result then holds every path of the partials, every
section and every key of the fragments, each key with its first definition. Otherwise it fails with
the first violation.

The merge compares a definition with the first one of its key only. That all of them agree follows
since sameness is an equivalence on the values of fragments, whose objects have distinct names.
-/

namespace RouteContract.Merge

open Contribution

/-- No path occurs in two partials. -/
def DisjointPaths (partials : List Fragment) : Prop :=
  partials.Pairwise fun f g =>
    ∀ path ∈ (f.entriesUnder "paths").map (·.1), path ∉ (g.entriesUnder "paths").map (·.1)

/-- Any two definitions of one key are the same. -/
def Consistent (entries : Entries) : Prop :=
  ∀ x ∈ entries, ∀ y ∈ entries, x.1 = y.1 → x.2.same y.2

/-- The sections hold exactly what fragments define: each section that is an object in some
fragment once, and in it each key of those objects once, with its first definition. -/
structure HoldsDefinitions (fragments : List Fragment) (sections : List (String × Json)) :
    Prop where
  sections_distinct : (sections.map (·.1)).Nodup
  mem_sections : ∀ name,
    name ∈ sections.map (·.1) ↔ ∃ f ∈ fragments, (f.definitions? name).isSome
  definitions : ∀ name body, (name, body) ∈ sections → ∃ entries, body = .obj entries ∧
    (entries.map (·.1)).Nodup ∧
    (∀ key, key ∈ entries.map (·.1) ↔
      ∃ f ∈ fragments, key ∈ ((f.definitions? name).getD []).map (·.1)) ∧
    ∀ key, entries.lookup key = (allDefinitions fragments name).lookup key

/-- A path of some partial that an earlier partial has as well. -/
def RepeatedPath (partials : List Fragment) (e : ContractError) : Prop :=
  ∃ earlier f later path, partials = earlier ++ f :: later ∧
    e = .duplicatePath path f.name ∧ path ∈ (f.entriesUnder "paths").map (·.1) ∧
    ∃ g ∈ earlier, path ∈ (g.entriesUnder "paths").map (·.1)

/-- Two definitions of one component that are not the same. -/
def UnequalDefinitions (fragments : List Fragment) (e : ContractError) : Prop :=
  ∃ name key existing incoming, e = .conflictingComponent name key existing incoming ∧
    (allDefinitions fragments name).lookup key = some existing ∧
    (key, incoming) ∈ allDefinitions fragments name ∧ ¬ existing.same incoming

theorem distinct_of_mem_allDefinitions {fragments : List Fragment} {name : String}
    {e : String × Json} (h : e ∈ allDefinitions fragments name) : e.2.hasDistinctNames := by
  obtain ⟨f, -, hf⟩ := List.mem_flatMap.mp h
  exact Fragment.distinct_definition hf

/-- Definitions stay consistent with one more exactly if that one is the same as the first
definition of its key. -/
theorem consistent_concat {entries : Entries} {e : String × Json}
    (hdistinct : ∀ x ∈ entries ++ [e], x.2.hasDistinctNames) :
    Consistent (entries ++ [e]) ↔
      Consistent entries ∧ ∀ existing, entries.lookup e.1 = some existing → existing.same e.2 := by
  have he : e.2.hasDistinctNames := hdistinct e (by simp)
  constructor
  · intro h
    refine ⟨fun x hx y hy => h x (by simp [hx]) y (by simp [hy]), ?_⟩
    intro existing hlookup
    exact h (e.1, existing) (by simp [Table.mem_of_lookup hlookup]) e (by simp) rfl
  · rintro ⟨hentries, hfirst⟩
    have hlast : ∀ x ∈ entries, x.1 = e.1 → x.2.same e.2 := by
      intro x hx hkey
      have hsome : (entries.lookup e.1).isSome :=
        Table.lookup_isSome_iff.mpr (List.mem_map.mpr ⟨x, hx, hkey⟩)
      obtain ⟨existing, hlookup⟩ := Option.isSome_iff_exists.mp hsome
      have hsame := hentries x hx (e.1, existing) (Table.mem_of_lookup hlookup) hkey
      exact Json.same_trans hsame (hfirst existing hlookup)
    intro x hx y hy hkey
    rw [List.mem_append, List.mem_singleton] at hx hy
    rcases hx with hx | rfl
    · rcases hy with hy | rfl
      · exact hentries x hx y hy hkey
      · exact hlast x hx hkey
    · rcases hy with hy | rfl
      · exact Json.same_symm (hdistinct y (by simp [hy])) he (hlast y hy hkey.symm)
      · exact Json.same_refl _ he

theorem violation?_path_eq_none (before : List Contribution) (fragment : String)
    (entry : String × Json) :
    (path fragment entry).violation? before = none ↔
      entry.1 ∉ (pathEntries before).map (·.1) := by
  rw [Contribution.violation?]
  split <;> simp_all

theorem violation?_definition_eq_none (before : List Contribution) (name : String)
    (entry : String × Json) :
    (definition name entry).violation? before = none ↔
      ∀ existing, (definitionsIn name before).lookup entry.1 = some existing →
        existing.same entry.2 := by
  rw [Contribution.violation?]
  cases (definitionsIn name before).lookup entry.1 <;> simp

/-- Contributions are accepted exactly if no path is among them twice and all definitions agree. -/
theorem accepted_iff {cs : List Contribution}
    (hdistinct : ∀ name, ∀ e ∈ definitionsIn name cs, e.2.hasDistinctNames) :
    Accepted cs ↔
      ((pathEntries cs).map (·.1)).Nodup ∧ ∀ name, Consistent (definitionsIn name cs) := by
  induction cs using List.reverseRecOn with
  | nil => simp [accepted_nil, pathEntries, definitionsIn, Consistent]
  | append_singleton cs c ih =>
      have ih := ih fun name e he => hdistinct name e (by simp [he])
      rw [accepted_concat, ih]
      cases c with
      | path fragment entry =>
          have hdefs (name : String) :
              definitionsIn name (cs ++ [.path fragment entry]) = definitionsIn name cs := by
            simp [definitionIn?]
          have hpaths : ((pathEntries (cs ++ [.path fragment entry])).map (·.1)).Nodup ↔
              entry.1 ∉ (pathEntries cs).map (·.1) ∧ ((pathEntries cs).map (·.1)).Nodup := by
            rw [pathEntries_append, pathEntries_singleton, path?, Option.toList_some,
              List.map_append, List.map_singleton, ← List.concat_eq_append, List.nodup_concat]
          rw [violation?_path_eq_none, hpaths]
          simp only [hdefs]
          tauto
      | heading name => simp [Contribution.violation?, path?, definitionIn?]
      | definition name entry =>
          have hpaths : pathEntries (cs ++ [.definition name entry]) = pathEntries cs := by
            simp [path?]
          have hown : definitionsIn name (cs ++ [.definition name entry]) =
              definitionsIn name cs ++ [entry] := by
            simp [definitionIn?]
          have hothers (other : String) (hother : other ≠ name) :
              definitionsIn other (cs ++ [.definition name entry]) = definitionsIn other cs := by
            simp [definitionIn?, Ne.symm hother]
          have hconcat := consistent_concat (by rw [← hown]; exact hdistinct name)
          rw [violation?_definition_eq_none, hpaths]
          constructor
          · rintro ⟨⟨hnodup, hall⟩, hfirst⟩
            refine ⟨hnodup, ?_⟩
            intro other
            by_cases same : other = name
            · rw [same, hown]
              exact hconcat.mpr ⟨hall name, hfirst⟩
            · rw [hothers other same]
              exact hall other
          · rintro ⟨hnodup, hall⟩
            have hname := hall name
            rw [hown] at hname
            refine ⟨⟨hnodup, ?_⟩, (hconcat.mp hname).2⟩
            intro other
            by_cases same : other = name
            · rw [same]
              exact (hconcat.mp hname).1
            · rw [← hothers other same]
              exact hall other

theorem nodup_flatMap_paths_iff (partials : List Fragment) :
    ((partials.flatMap (Fragment.entriesUnder "paths")).map (·.1)).Nodup ↔
      DisjointPaths partials := by
  rw [List.map_flatMap, List.nodup_flatMap, DisjointPaths]
  constructor
  · rintro ⟨-, h⟩
    exact h.imp fun hdisjoint path hf hg => hdisjoint hf hg
  · intro h
    exact ⟨fun f _ => f.nodup_entriesUnder "paths",
      h.imp fun hdisjoint path hf hg => hdisjoint path hf hg⟩

theorem accepted_inOrder_iff (schemas responses security : Fragment) (partials : List Fragment) :
    Accepted (inOrder schemas responses security partials) ↔
      DisjointPaths partials ∧
        ∀ name, Consistent
          (allDefinitions (schemas :: responses :: security :: partials) name) := by
  rw [accepted_iff, pathEntries_inOrder, nodup_flatMap_paths_iff]
  · simp only [definitionsIn_inOrder]
  · intro name e he
    rw [definitionsIn_inOrder] at he
    exact distinct_of_mem_allDefinitions he

/-- A place in lists laid end to end lies in one of them. -/
theorem exists_of_flatMap_eq {α β : Type} (lay : α → List β) {xs : List α} {before after : List β}
    {c : β} (h : xs.flatMap lay = before ++ c :: after) :
    ∃ earlier x later inside rest, xs = earlier ++ x :: later ∧ lay x = inside ++ c :: rest ∧
      before = earlier.flatMap lay ++ inside := by
  induction xs generalizing before with
  | nil => simp at h
  | cons x xs ih =>
      rw [List.flatMap_cons] at h
      rcases List.append_eq_append_iff.mp h with ⟨more, rfl, hmore⟩ | ⟨more, hx, hmore⟩
      · obtain ⟨earlier, y, later, inside, rest, rfl, hy, rfl⟩ := ih hmore
        exact ⟨x :: earlier, y, later, inside, rest, rfl, hy, by simp⟩
      · cases more with
        | nil =>
            have hrest : xs.flatMap lay = [] ++ c :: after := hmore.symm
            obtain ⟨earlier, y, later, inside, rest, rfl, hy, hnil⟩ := ih hrest
            refine ⟨x :: earlier, y, later, inside, rest, rfl, hy, ?_⟩
            simp only [List.append_nil] at hx
            rw [List.flatMap_cons, List.append_assoc, ← hnil, hx, List.append_nil]
        | cons d rest =>
            obtain ⟨rfl, -⟩ := List.cons.inj hmore
            exact ⟨[], x, xs, before, rest, rfl, hx, rfl⟩

theorem mem_pathEntries {cs : List Contribution} {fragment : String} {entry : String × Json}
    (h : .path fragment entry ∈ cs) : entry ∈ pathEntries cs :=
  List.mem_filterMap.mpr ⟨_, h, rfl⟩

/-- A path among the contributions of fragments comes from a partial. Before it stand the paths of
all earlier partials, then those that come before it in its own. -/
theorem exists_partial_of_path {schemas responses security : Fragment} {partials : List Fragment}
    {before after : List Contribution} {fragment : String} {entry : String × Json}
    (h : inOrder schemas responses security partials = before ++ .path fragment entry :: after) :
    ∃ earlier f later inside rest, partials = earlier ++ f :: later ∧ fragment = f.name ∧
      f.entriesUnder "paths" = inside ++ entry :: rest ∧
      pathEntries before = earlier.flatMap (Fragment.entriesUnder "paths") ++ inside := by
  have hshared := pathEntries_flatMap_ofComponents [schemas, responses, security]
  obtain ⟨more, hbefore, hpartials⟩ :
      ∃ more, before = [schemas, responses, security].flatMap ofComponents ++ more ∧
        partials.flatMap ofPartial = more ++ .path fragment entry :: after := by
    rw [inOrder] at h
    rcases List.append_eq_append_iff.mp h with hmore | ⟨more, hfront, hback⟩
    · exact hmore
    · cases more with
      | nil =>
          rw [List.append_nil] at hfront
          exact ⟨[], by rw [hfront, List.append_nil], hback.symm⟩
      | cons c rest =>
          obtain ⟨rfl, -⟩ := List.cons.inj hback
          have hmem : Contribution.path fragment entry ∈
              [schemas, responses, security].flatMap ofComponents := by
            rw [hfront]
            simp
          have hnone := mem_pathEntries hmem
          rw [hshared] at hnone
          cases hnone
  obtain ⟨earlier, f, later, inside, rest, rfl, hf, rfl⟩ := exists_of_flatMap_eq _ hpartials
  have hpaths : f.entriesUnder "paths" = pathEntries inside ++ entry :: pathEntries rest := by
    rw [← pathEntries_ofPartial f, hf, pathEntries_append]
    rfl
  refine ⟨earlier, f, later, pathEntries inside, pathEntries rest, rfl, ?_, hpaths, ?_⟩
  · have hmem : Contribution.path fragment entry ∈ ofPartial f := by simp [hf]
    rcases List.mem_append.mp hmem with hown | hcomponents
    · obtain ⟨_, -, heq⟩ := List.mem_map.mp hown
      cases heq
      rfl
    · have hnone := mem_pathEntries hcomponents
      rw [pathEntries_ofComponents] at hnone
      cases hnone
  · rw [hbefore, pathEntries_append, hshared, pathEntries_append, pathEntries_flatMap_ofPartial,
      List.nil_append]

/-- The first violation is a path that two partials have, reported for the later one, or two
definitions that are not the same. -/
theorem firstViolation_cases {schemas responses security : Fragment} {partials : List Fragment}
    {e : ContractError} (h : FirstViolation (inOrder schemas responses security partials) e) :
    RepeatedPath partials e ∨
      UnequalDefinitions (schemas :: responses :: security :: partials) e := by
  obtain ⟨before, c, after, hsplit, hc, -⟩ := h
  cases c with
  | path fragment entry =>
      left
      obtain ⟨earlier, f, later, inside, rest, hpartials, hname, hpaths, hbefore⟩ :=
        exists_partial_of_path hsplit
      rw [Contribution.violation?] at hc
      split at hc
      · next hmem =>
        cases hc
        refine ⟨earlier, f, later, entry.1, hpartials, by rw [hname], by simp [hpaths], ?_⟩
        -- The paths of one fragment are distinct, so the path stood in an earlier one.
        have hown : entry.1 ∉ inside.map (·.1) := by
          have hdistinct := f.nodup_entriesUnder "paths"
          rw [hpaths, List.map_append, List.nodup_append] at hdistinct
          intro hinside
          exact hdistinct.2.2 entry.1 hinside entry.1 (by simp) rfl
        rw [hbefore, List.map_append, List.mem_append, List.map_flatMap, List.mem_flatMap] at hmem
        rcases hmem with hearlier | hinside
        · exact hearlier
        · exact absurd hinside hown
      · cases hc
  | heading name => cases hc
  | definition name entry =>
      right
      have hall : allDefinitions (schemas :: responses :: security :: partials) name =
          definitionsIn name before ++ entry :: definitionsIn name after := by
        rw [← definitionsIn_inOrder, hsplit, definitionsIn_append]
        simp [definitionsIn, definitionIn?]
      rw [Contribution.violation?] at hc
      cases hfound : (definitionsIn name before).lookup entry.1 with
      | none => simp [hfound] at hc
      | some existing =>
          simp only [hfound] at hc
          split at hc
          · cases hc
          · next hsame =>
            cases hc
            refine ⟨name, entry.1, existing, entry.2, rfl, ?_, by simp [hall], hsame⟩
            rw [hall, List.lookup_append, hfound, Option.some_or]

theorem holdsDefinitions_gather (schemas responses security : Fragment)
    (partials : List Fragment) :
    HoldsDefinitions (schemas :: responses :: security :: partials)
      ((gather (inOrder schemas responses security partials)).map fun (name, entries) =>
        (name, .obj entries)) where
  sections_distinct := by
    rw [List.map_map]
    exact map_fst_gather _ ▸ Json.nodup_eraseDups _
  mem_sections name := by
    rw [List.map_map]
    change name ∈ (gather _).map (·.1) ↔ _
    rw [map_fst_gather, List.mem_eraseDups, mem_sectionNames_inOrder]
  definitions name body hbody := by
    obtain ⟨⟨_, entries⟩, hentries, heq⟩ := List.mem_map.mp hbody
    cases heq
    obtain ⟨_, -, heq⟩ := List.mem_map.mp hentries
    cases heq
    have hlookup (key : String) : (Json.firsts
        (definitionsIn name (inOrder schemas responses security partials))).lookup key =
          (allDefinitions (schemas :: responses :: security :: partials) name).lookup key := by
      rw [Json.lookup_firsts, definitionsIn_inOrder]
    refine ⟨_, rfl, Json.nodup_map_fst_firsts _, ?_, hlookup⟩
    intro key
    rw [← Table.lookup_isSome_iff, hlookup, Table.lookup_isSome_iff, allDefinitions,
      List.map_flatMap, List.mem_flatMap]

/-- What a merge gives, exactly. It succeeds if and only if no path occurs in two partials and any
two definitions of one component are the same. The result then holds the paths of the partials in
order, and of the components exactly what the fragments define, each key as it is defined first.
A failing merge reports the first violation: a path that an earlier partial has, with the name of
the later one, or two definitions that are not the same. -/
theorem merge_exact (info : ContractInfo) (schemas responses security : Fragment)
    (partials : List Fragment) :
    let fragments := schemas :: responses :: security :: partials
    let merged := merge info schemas responses security partials
    ((∃ root, merged = .ok root) ↔
      DisjointPaths partials ∧ ∀ name, Consistent (allDefinitions fragments name)) ∧
    (∀ root, merged = .ok root →
      root.get? "paths" = some (.obj (partials.flatMap (Fragment.entriesUnder "paths"))) ∧
      ∃ sections, root.get? "components" = some (.obj sections) ∧
        HoldsDefinitions fragments sections) ∧
    (∀ e, merged = .error e ↔ FirstViolation (inOrder schemas responses security partials) e) ∧
    ∀ e, merged = .error e → RepeatedPath partials e ∨ UnequalDefinitions fragments e := by
  intro fragments merged
  refine ⟨?_, ?_, fun e => merge_eq_error_iff, ?_⟩
  · rw [← accepted_inOrder_iff]
    constructor
    · rintro ⟨root, hroot⟩
      exact (merge_eq_ok_iff.mp hroot).1
    · intro haccepted
      exact ⟨_, merge_eq_ok_iff.mpr ⟨haccepted, rfl⟩⟩
  · intro root hroot
    obtain ⟨-, rfl⟩ := merge_eq_ok_iff.mp hroot
    refine ⟨?_, _, rfl, holdsDefinitions_gather schemas responses security partials⟩
    rw [← pathEntries_inOrder schemas responses security partials]
    rfl
  · intro e he
    exact firstViolation_cases (merge_eq_error_iff.mp he)

end RouteContract.Merge
