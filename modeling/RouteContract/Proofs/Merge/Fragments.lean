import Mathlib.Tactic
import RouteContract.Proofs.Merge.Contribution

/-!
What whole fragments contribute: their paths, and for every section of components the definitions
that stand under its name. Since the names of a fragment are distinct, a section that occurs is the
one that a search for its name finds.
-/

namespace RouteContract

theorem Json.hasDistinctNames_get? {j value : Json} {name : String} (hj : j.hasDistinctNames)
    (h : j.get? name = some value) : value.hasDistinctNames := by
  cases j with
  | obj members => exact ((Json.hasDistinctNames_obj members).mp hj).2 _ (Table.mem_of_lookup h)
  | _ => cases h

namespace Fragment

/-- The definitions of a section of components; none if the section is missing or no object. -/
def definitions? (f : Fragment) (sectionName : String) : Option Merge.Entries :=
  match (f.entriesUnder "components").lookup sectionName with
  | some (.obj entries) => some entries
  | _ => none

theorem definitions?_eq (f : Fragment) (sectionName : String) :
    f.definitions? sectionName =
      ((f.entriesUnder "components").lookup sectionName).bind Json.asObject? := by
  rw [definitions?]
  cases (f.entriesUnder "components").lookup sectionName with
  | none => rfl
  | some value => cases value <;> rfl

theorem distinct_entriesUnder (name : String) (f : Fragment) :
    (Json.obj (f.entriesUnder name)).hasDistinctNames := by
  rw [entriesUnder_eq]
  cases hvalue : f.root.get? name with
  | none => simp
  | some value =>
      have hdistinct := Json.hasDistinctNames_get? f.distinct hvalue
      cases value with
      | obj members => exact hdistinct
      | _ => simp [Json.asObject?]

theorem nodup_entriesUnder (name : String) (f : Fragment) :
    ((f.entriesUnder name).map (·.1)).Nodup :=
  ((Json.hasDistinctNames_obj _).mp (f.distinct_entriesUnder name)).1

theorem distinct_definition {f : Fragment} {name : String} {e : String × Json}
    (h : e ∈ (f.definitions? name).getD []) : e.2.hasDistinctNames := by
  rw [definitions?_eq] at h
  cases hvalue : (f.entriesUnder "components").lookup name with
  | none => simp [hvalue] at h
  | some value =>
      have hdistinct := Json.hasDistinctNames_get? (f.distinct_entriesUnder "components") hvalue
      cases value with
      | obj entries =>
          have hmem : e ∈ entries := by simpa [hvalue, Json.asObject?] using h
          exact ((Json.hasDistinctNames_obj entries).mp hdistinct).2 e hmem
      | _ => simp [hvalue, Json.asObject?] at h

end Fragment

namespace Merge

open Contribution

/-- All definitions that fragments give in a section, in the order in which they are merged. -/
def allDefinitions (fragments : List Fragment) (sectionName : String) : Entries :=
  fragments.flatMap fun f => (f.definitions? sectionName).getD []

theorem pathEntries_ofComponents (f : Fragment) : pathEntries (ofComponents f) = [] := by
  rw [pathEntries, List.filterMap_eq_nil_iff]
  intro c hc
  obtain ⟨s, -, hs⟩ := List.mem_flatMap.mp hc
  rw [ofSection] at hs
  split at hs
  · rcases List.mem_cons.mp hs with rfl | hs
    · rfl
    · obtain ⟨entry, -, rfl⟩ := List.mem_map.mp hs
      rfl
  · simp at hs

theorem pathEntries_ofPartial (f : Fragment) :
    pathEntries (ofPartial f) = f.entriesUnder "paths" := by
  rw [ofPartial, pathEntries_append, pathEntries_ofComponents, List.append_nil, pathEntries,
    List.filterMap_map]
  exact List.filterMap_some

theorem pathEntries_flatMap_ofComponents (fragments : List Fragment) :
    pathEntries (fragments.flatMap ofComponents) = [] := by
  rw [pathEntries, List.filterMap_flatMap]
  exact List.flatMap_eq_nil_iff.mpr fun f _ => pathEntries_ofComponents f

theorem pathEntries_flatMap_ofPartial (partials : List Fragment) :
    pathEntries (partials.flatMap ofPartial) =
      partials.flatMap (Fragment.entriesUnder "paths") := by
  rw [pathEntries, List.filterMap_flatMap]
  congr 1
  funext f
  exact pathEntries_ofPartial f

theorem pathEntries_inOrder (schemas responses security : Fragment) (partials : List Fragment) :
    pathEntries (inOrder schemas responses security partials) =
      partials.flatMap (Fragment.entriesUnder "paths") := by
  rw [inOrder, pathEntries_append, pathEntries_flatMap_ofComponents, pathEntries_flatMap_ofPartial,
    List.nil_append]

theorem definitionsIn_ofSection (name : String) (s : String × Json) :
    definitionsIn name (ofSection s) = if s.1 = name then s.2.asObject?.getD [] else [] := by
  obtain ⟨other, body⟩ := s
  cases body with
  | obj entries =>
      rw [ofSection, definitionsIn, List.filterMap_cons, List.filterMap_map]
      change entries.filterMap (fun e => if other = name then some e else none) = _
      by_cases same : other = name <;> simp [same, Json.asObject?]
  | _ => simp [ofSection, definitionsIn, Json.asObject?]

/-- With distinct section names, what a list of sections contributes to one section is what stands
under its name. -/
theorem definitionsIn_flatMap_ofSection (name : String) {sections : List (String × Json)}
    (hdistinct : (sections.map (·.1)).Nodup) :
    definitionsIn name (sections.flatMap ofSection) =
      ((sections.lookup name).bind Json.asObject?).getD [] := by
  induction sections with
  | nil => rfl
  | cons s rest ih =>
      rw [List.map_cons, List.nodup_cons] at hdistinct
      rw [List.flatMap_cons, definitionsIn_append, definitionsIn_ofSection, ih hdistinct.2,
        Table.lookup_cons]
      by_cases same : s.1 = name
      · have hlater : rest.lookup name = none := by
          rw [Table.lookup_eq_none_iff, ← same]
          exact hdistinct.1
        simp [same, hlater]
      · simp [same, Ne.symm same]

theorem definitionsIn_ofComponents (name : String) (f : Fragment) :
    definitionsIn name (ofComponents f) = (f.definitions? name).getD [] := by
  rw [ofComponents, Fragment.definitions?_eq]
  exact definitionsIn_flatMap_ofSection name (f.nodup_entriesUnder "components")

theorem definitionsIn_ofPartial (name : String) (f : Fragment) :
    definitionsIn name (ofPartial f) = (f.definitions? name).getD [] := by
  have hpaths : definitionsIn name ((f.entriesUnder "paths").map (.path f.name)) = [] := by
    simp [definitionsIn, definitionIn?, Function.comp_def]
  rw [ofPartial, definitionsIn_append, hpaths, definitionsIn_ofComponents, List.nil_append]

theorem definitionsIn_inOrder (name : String) (schemas responses security : Fragment)
    (partials : List Fragment) :
    definitionsIn name (inOrder schemas responses security partials) =
      allDefinitions (schemas :: responses :: security :: partials) name := by
  have hpartials : definitionsIn name (partials.flatMap ofPartial) =
      allDefinitions partials name := by
    rw [definitionsIn, List.filterMap_flatMap, allDefinitions]
    congr 1
    funext f
    exact definitionsIn_ofPartial name f
  rw [inOrder, definitionsIn_append, hpartials]
  simp [allDefinitions, definitionsIn_ofComponents]

/-- A section names itself before its definitions and with each of them. -/
theorem sectionNames_ofSection_obj (name : String) (entries : Entries) :
    sectionNames (ofSection (name, .obj entries)) = name :: entries.map fun _ => name := by
  rw [ofSection, sectionNames, List.filterMap_cons, List.filterMap_map]
  change name :: entries.filterMap (fun _ => some name) = _
  rw [List.filterMap_eq_map']

theorem mem_sectionNames_ofSection (name : String) (s : String × Json) :
    name ∈ sectionNames (ofSection s) ↔ s.1 = name ∧ s.2.asObject?.isSome := by
  obtain ⟨other, body⟩ := s
  cases body with
  | obj entries =>
      rw [sectionNames_ofSection_obj]
      simp [Json.asObject?, eq_comm]
  | _ => simp [ofSection, sectionNames, Json.asObject?]

theorem mem_sectionNames_ofComponents (name : String) (f : Fragment) :
    name ∈ sectionNames (ofComponents f) ↔ (f.definitions? name).isSome := by
  have hdistinct := f.nodup_entriesUnder "components"
  rw [ofComponents, sectionNames, List.filterMap_flatMap, List.mem_flatMap,
    Fragment.definitions?_eq]
  constructor
  · rintro ⟨s, hs, hname⟩
    obtain ⟨rfl, hobject⟩ := (mem_sectionNames_ofSection name s).mp hname
    rw [Table.lookup_of_mem hdistinct hs]
    exact hobject
  · intro h
    cases hlookup : (f.entriesUnder "components").lookup name with
    | none => simp [hlookup] at h
    | some body =>
        rw [hlookup, Option.bind_some] at h
        exact ⟨(name, body), Table.mem_of_lookup hlookup,
          (mem_sectionNames_ofSection name _).mpr ⟨rfl, h⟩⟩

theorem sectionNames_ofPartial (f : Fragment) :
    sectionNames (ofPartial f) = sectionNames (ofComponents f) := by
  have hpaths : sectionNames ((f.entriesUnder "paths").map (.path f.name)) = [] := by
    simp [sectionNames, sectionName?]
  rw [ofPartial, sectionNames_append, hpaths, List.nil_append]

theorem mem_sectionNames_ofPartial (name : String) (f : Fragment) :
    name ∈ sectionNames (ofPartial f) ↔ (f.definitions? name).isSome := by
  rw [sectionNames_ofPartial, mem_sectionNames_ofComponents]

theorem mem_sectionNames_inOrder (name : String) (schemas responses security : Fragment)
    (partials : List Fragment) :
    name ∈ sectionNames (inOrder schemas responses security partials) ↔
      ∃ f ∈ schemas :: responses :: security :: partials, (f.definitions? name).isSome := by
  have hpartials : name ∈ sectionNames (partials.flatMap ofPartial) ↔
      ∃ f ∈ partials, (f.definitions? name).isSome := by
    rw [sectionNames, List.filterMap_flatMap, List.mem_flatMap]
    simp only [← mem_sectionNames_ofPartial, sectionNames]
  rw [inOrder, sectionNames_append, List.mem_append, hpartials]
  simp [mem_sectionNames_ofComponents, or_assoc]

end Merge

end RouteContract
