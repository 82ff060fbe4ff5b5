import Mathlib.Tactic
import RouteContract.Merge
import RouteContract.Proofs.Json.Members

/-!
Merging as one pass over contributions. What the fragments bring, path by path and definition by
definition, is laid out in one list in the order in which it is processed; the nested loops of the
merge are a single fold over that list. The state after any accepted part of the list is a function
of that part alone, and a contribution is refused exactly if it violates a rule against what came
before it. A merge therefore ends with the first violation, or else with what the whole list says.
-/

namespace RouteContract

namespace Fragment

/-- The members of the object that stands under a name of a fragment; none if it is no object. -/
def entriesUnder (name : String) (f : Fragment) : List (String × Json) :=
  match f.root.get? name with
  | some (.obj members) => members
  | _ => []

theorem entriesUnder_eq (name : String) (f : Fragment) :
    f.entriesUnder name = ((f.root.get? name).bind Json.asObject?).getD [] := by
  rw [entriesUnder]
  cases f.root.get? name with
  | none => rfl
  | some value => cases value <;> rfl

theorem paths_eq (f : Fragment) : f.paths = f.entriesUnder "paths" :=
  (entriesUnder_eq "paths" f).symm

theorem components_eq (f : Fragment) : f.components = f.entriesUnder "components" :=
  (entriesUnder_eq "components" f).symm

end Fragment

namespace Merge

/-- One thing that a fragment contributes. -/
inductive Contribution where
  | path (fragment : String) (entry : String × Json)
  /-- A section of components that is an object, before its definitions. -/
  | heading (sectionName : String)
  | definition (sectionName : String) (entry : String × Json)

namespace Contribution

/-- What a section of components contributes; nothing if it is no object. -/
def ofSection (s : String × Json) : List Contribution :=
  match s.2 with
  | .obj entries => .heading s.1 :: entries.map (.definition s.1)
  | _ => []

def ofComponents (f : Fragment) : List Contribution :=
  (f.entriesUnder "components").flatMap ofSection

/-- What a partial contributes: its paths, then its components. -/
def ofPartial (f : Fragment) : List Contribution :=
  (f.entriesUnder "paths").map (.path f.name) ++ ofComponents f

/-- Everything that is merged, in the order in which it is processed. -/
def inOrder (schemas responses security : Fragment) (partials : List Fragment) :
    List Contribution :=
  [schemas, responses, security].flatMap ofComponents ++ partials.flatMap ofPartial

def path? : Contribution → Option (String × Json)
  | path _ entry => some entry
  | _ => none

def sectionName? : Contribution → Option String
  | path _ _ => none
  | heading name => some name
  | definition name _ => some name

def definitionIn? (name : String) : Contribution → Option (String × Json)
  | definition other entry => if other = name then some entry else none
  | _ => none

end Contribution

open Contribution
open Json (firsts firsts_concat lookup_firsts nodup_eraseDups lookup_map_name setMember_map_name
  setMember_of_lookup setMember_setMember)

/-- The paths among contributions, in order. -/
def pathEntries (cs : List Contribution) : Entries :=
  cs.filterMap path?

/-- The sections that contributions name, in order and as often as they are named. -/
def sectionNames (cs : List Contribution) : List String :=
  cs.filterMap sectionName?

/-- The definitions that contributions give in a section, in order and with repetitions. -/
def definitionsIn (name : String) (cs : List Contribution) : Entries :=
  cs.filterMap (definitionIn? name)

/-- The sections that contributions make up: each name once, with the first definition of each of
its keys. -/
def gather (cs : List Contribution) : Sections :=
  (sectionNames cs).eraseDups.map fun name => (name, firsts (definitionsIn name cs))

/-- The rule that a contribution violates against those before it. A path may not be there yet, and
a definition must be the same as the first one of its key. -/
def Contribution.violation? (before : List Contribution) : Contribution → Option ContractError
  | path fragment entry =>
      if entry.1 ∈ (pathEntries before).map (·.1) then some (.duplicatePath entry.1 fragment)
      else none
  | heading _ => none
  | definition name entry =>
      match (definitionsIn name before).lookup entry.1 with
      | none => none
      | some existing =>
          if existing.same entry.2 then none
          else some (.conflictingComponent name entry.1 existing entry.2)

/-- No contribution violates a rule against those before it. -/
def Accepted (cs : List Contribution) : Prop :=
  ∀ before c after, cs = before ++ c :: after → c.violation? before = none

/-- The first contribution that violates a rule does so with the given error. -/
def FirstViolation (cs : List Contribution) (e : ContractError) : Prop :=
  ∃ before c after, cs = before ++ c :: after ∧ c.violation? before = some e ∧ Accepted before

@[simp]
theorem pathEntries_append (cs ds : List Contribution) :
    pathEntries (cs ++ ds) = pathEntries cs ++ pathEntries ds :=
  List.filterMap_append

@[simp]
theorem sectionNames_append (cs ds : List Contribution) :
    sectionNames (cs ++ ds) = sectionNames cs ++ sectionNames ds :=
  List.filterMap_append

@[simp]
theorem definitionsIn_append (name : String) (cs ds : List Contribution) :
    definitionsIn name (cs ++ ds) = definitionsIn name cs ++ definitionsIn name ds :=
  List.filterMap_append

@[simp]
theorem pathEntries_singleton (c : Contribution) : pathEntries [c] = c.path?.toList := by
  rw [pathEntries, List.filterMap_cons, List.filterMap_nil]
  cases c.path? <;> rfl

@[simp]
theorem sectionNames_singleton (c : Contribution) : sectionNames [c] = c.sectionName?.toList := by
  rw [sectionNames, List.filterMap_cons, List.filterMap_nil]
  cases c.sectionName? <;> rfl

@[simp]
theorem definitionsIn_singleton (name : String) (c : Contribution) :
    definitionsIn name [c] = (definitionIn? name c).toList := by
  rw [definitionsIn, List.filterMap_cons, List.filterMap_nil]
  cases definitionIn? name c <;> rfl

theorem accepted_nil : Accepted [] := by
  intro before c after h
  simp at h

theorem accepted_concat (cs : List Contribution) (c : Contribution) :
    Accepted (cs ++ [c]) ↔ Accepted cs ∧ c.violation? cs = none := by
  constructor
  · intro h
    refine ⟨?_, h cs c [] rfl⟩
    intro before d after heq
    exact h before d (after ++ [c]) (by simp [heq])
  · rintro ⟨hcs, hc⟩ before d after heq
    rcases List.eq_nil_or_concat after with rfl | ⟨rest, last, rfl⟩
    · obtain ⟨rfl, hd⟩ := List.append_inj' heq rfl
      cases hd
      exact hc
    · have heq' : cs ++ [c] = (before ++ d :: rest) ++ [last] := by simpa using heq
      obtain ⟨hfront, -⟩ := List.append_inj' heq' rfl
      exact hcs before d rest hfront

theorem map_fst_gather (cs : List Contribution) :
    (gather cs).map (·.1) = (sectionNames cs).eraseDups := by
  rw [gather, List.map_map]
  exact List.map_id _

theorem lookup_gather (name : String) (cs : List Contribution) :
    ((gather cs).lookup name).getD [] = firsts (definitionsIn name cs) := by
  rw [gather, lookup_map_name fun name => firsts (definitionsIn name cs)]
  by_cases named : name ∈ sectionNames cs
  · simp [named]
  · have hnone : definitionsIn name cs = [] := by
      rw [definitionsIn, List.filterMap_eq_nil_iff]
      intro c hc
      cases c with
      | path fragment entry => rfl
      | heading other => rfl
      | definition other entry =>
          have different : other ≠ name := by
            rintro rfl
            exact named (List.mem_filterMap.mpr ⟨_, hc, rfl⟩)
          simp [definitionIn?, different]
    simp [named, hnone, firsts]

/-- Setting a section to what a further contribution makes of it gives what all contributions make
up, if the further one names that section and says nothing about others. -/
theorem setMember_gather (cs : List Contribution) (c : Contribution) (name : String)
    (hname : c.sectionName? = some name)
    (hothers : ∀ other, other ≠ name → definitionIn? other c = none) :
    Json.setMember name (firsts (definitionsIn name (cs ++ [c]))) (gather cs) =
      gather (cs ++ [c]) := by
  have hnames : (sectionNames (cs ++ [c])).eraseDups =
      if name ∈ (sectionNames cs).eraseDups then (sectionNames cs).eraseDups
      else (sectionNames cs).eraseDups ++ [name] := by
    rw [sectionNames_append, sectionNames_singleton, hname, Option.toList_some,
      List.eraseDups_append]
    by_cases seen : name ∈ sectionNames cs <;>
      simp [List.removeAll, seen, List.eraseDups_cons]
  rw [gather, setMember_map_name (fun name => firsts (definitionsIn name cs)) (nodup_eraseDups _),
    gather, hnames]
  apply List.map_congr_left
  intro other _
  by_cases same : other = name
  · rw [if_pos same, same]
  · rw [if_neg same, definitionsIn_append, definitionsIn_singleton, hothers other same,
      Option.toList_none, List.append_nil]

/-- Takes one contribution into the paths and sections merged so far. -/
def accept (merged : Entries × Sections) : Contribution →
    Except ContractError (Entries × Sections)
  | .path fragment entry => do
    let paths ← addPath fragment merged.1 entry
    .ok (paths, merged.2)
  | .heading name => .ok (merged.1, Json.setMember name ((merged.2.lookup name).getD []) merged.2)
  | .definition name entry => do
    let entries ← addEntry name ((merged.2.lookup name).getD []) entry
    .ok (merged.1, Json.setMember name entries merged.2)

/-- Once the contributions so far have made up the state, the next one is refused if it violates a
rule, and otherwise leads to the state that it makes up together with them. -/
theorem accept_step (cs : List Contribution) (c : Contribution) :
    accept (pathEntries cs, gather cs) c =
      match c.violation? cs with
      | some e => .error e
      | none => .ok (pathEntries (cs ++ [c]), gather (cs ++ [c])) := by
  cases c with
  | path fragment entry =>
      have hgather : gather (cs ++ [.path fragment entry]) = gather cs := by
        simp [gather, sectionName?, definitionIn?]
      have hpaths : pathEntries (cs ++ [.path fragment entry]) = pathEntries cs ++ [entry] := by
        simp [path?]
      rw [hgather, hpaths, accept, addPath, Contribution.violation?]
      simp only [Table.lookup_isSome_iff]
      split <;> rfl
  | heading name =>
      have hdefs : definitionsIn name (cs ++ [.heading name]) = definitionsIn name cs := by
        simp [definitionIn?]
      have hpaths : pathEntries (cs ++ [.heading name]) = pathEntries cs := by
        simp [path?]
      have hset := setMember_gather cs (.heading name) name rfl fun _ _ => rfl
      rw [hdefs] at hset
      rw [hpaths, accept, lookup_gather, hset]
      rfl
  | definition name entry =>
      have hdefs : definitionsIn name (cs ++ [.definition name entry]) =
          definitionsIn name cs ++ [entry] := by
        simp [definitionIn?]
      have hpaths : pathEntries (cs ++ [.definition name entry]) = pathEntries cs := by
        simp [path?]
      have hset := setMember_gather cs (.definition name entry) name rfl fun other hother => by
        simp [definitionIn?, Ne.symm hother]
      rw [hdefs, firsts_concat] at hset
      rw [hpaths, accept, lookup_gather, addEntry, lookup_firsts, Contribution.violation?]
      cases hfound : (definitionsIn name cs).lookup entry.1 with
      | none =>
          rw [if_neg (Table.lookup_eq_none_iff.mp hfound)] at hset
          simp only [← hset]
          rfl
      | some existing =>
          rw [if_pos (Table.mem_keys_of_lookup hfound)] at hset
          by_cases same : existing.same entry.2
          · simp only [same, if_true, ← hset]
            rfl
          · simp only [same]
            rfl

/-- Accepted contributions lead to the state that they make up. -/
theorem foldlM_accept_of_accepted {cs : List Contribution} (h : Accepted cs) :
    cs.foldlM accept ([], []) = .ok (pathEntries cs, gather cs) := by
  induction cs using List.reverseRecOn with
  | nil => rfl
  | append_singleton cs c ih =>
      obtain ⟨hcs, hc⟩ := (accepted_concat cs c).mp h
      rw [List.foldlM_append, ih hcs]
      change List.foldlM accept (pathEntries cs, gather cs) [c] = _
      rw [List.foldlM_cons, accept_step, hc]
      rfl

/-- The pass ends with the error of the first violation. -/
theorem foldlM_accept_of_firstViolation {cs : List Contribution} {e : ContractError}
    (h : FirstViolation cs e) : cs.foldlM accept ([], []) = .error e := by
  obtain ⟨before, c, after, rfl, hc, hbefore⟩ := h
  rw [List.foldlM_append, foldlM_accept_of_accepted hbefore]
  change List.foldlM accept (pathEntries before, gather before) (c :: after) = _
  rw [List.foldlM_cons, accept_step, hc]
  rfl

theorem accepted_or_firstViolation (cs : List Contribution) :
    Accepted cs ∨ ∃ e, FirstViolation cs e := by
  induction cs using List.reverseRecOn with
  | nil => exact Or.inl accepted_nil
  | append_singleton cs c ih =>
      rcases ih with hcs | ⟨e, before, d, after, rfl, hd, hbefore⟩
      · cases hc : c.violation? cs with
        | none => exact Or.inl ((accepted_concat cs c).mpr ⟨hcs, hc⟩)
        | some e => exact Or.inr ⟨e, cs, c, [], rfl, hc, hcs⟩
      · exact Or.inr ⟨e, before, d, after ++ [c], by simp, hd, hbefore⟩

/-- Steps on lists of steps are one pass over all of them. -/
theorem foldlM_flatMap_except {α ε σ β : Type} (steps : α → List β)
    (step : σ → β → Except ε σ) (xs : List α) (s : σ) :
    (xs.flatMap steps).foldlM step s = xs.foldlM (fun s x => (steps x).foldlM step s) s := by
  induction xs generalizing s with
  | nil => rfl
  | cons x xs ih => simp only [List.flatMap_cons, List.foldlM_append, List.foldlM_cons, ih]

theorem foldlM_accept_definitions (name : String) (new : Entries) (paths : Entries)
    (sections : Sections) (entries : Entries) (h : sections.lookup name = some entries) :
    (new.map (.definition name)).foldlM accept (paths, sections) =
      (fun merged => (paths, Json.setMember name merged sections)) <$>
        addEntries name entries new := by
  induction new generalizing sections entries with
  | nil =>
      have hsame := setMember_of_lookup h
      simp [addEntries, hsame]
  | cons entry rest ih =>
      rw [List.map_cons, List.foldlM_cons, addEntries, List.foldlM_cons, accept, h,
        Option.getD_some]
      cases addEntry name entries entry with
      | error e => rfl
      | ok merged =>
          have hrest := ih (Json.setMember name merged sections) merged (by
            rw [Json.lookup_setMember, if_pos rfl])
          simp only [setMember_setMember] at hrest
          exact hrest

theorem foldlM_accept_section (s : String × Json) (paths : Entries) (sections : Sections) :
    (ofSection s).foldlM accept (paths, sections) = (paths, ·) <$> addSection sections s := by
  rw [ofSection, addSection]
  cases s.2 with
  | obj entries =>
      have hdefinitions := foldlM_accept_definitions s.1 entries paths
        (Json.setMember s.1 ((sections.lookup s.1).getD []) sections)
        ((sections.lookup s.1).getD []) (by rw [Json.lookup_setMember, if_pos rfl])
      simp only [setMember_setMember] at hdefinitions
      rw [List.foldlM_cons, accept]
      change List.foldlM accept (paths, _) _ = _
      rw [hdefinitions]
      dsimp only
      cases addEntries s.1 ((sections.lookup s.1).getD []) entries <;> rfl
  | _ => rfl

theorem foldlM_accept_components (f : Fragment) (paths : Entries) (sections : Sections) :
    (ofComponents f).foldlM accept (paths, sections) = (paths, ·) <$> addComponents sections f := by
  rw [ofComponents, addComponents, Fragment.components_eq, foldlM_flatMap_except]
  induction f.entriesUnder "components" generalizing sections with
  | nil => rfl
  | cons s rest ih =>
      rw [List.foldlM_cons, List.foldlM_cons, foldlM_accept_section]
      cases addSection sections s with
      | error e => rfl
      | ok merged => exact ih merged

theorem foldlM_accept_paths (fragment : String) (new paths : Entries) (sections : Sections) :
    (new.map (.path fragment)).foldlM accept (paths, sections) =
      (·, sections) <$> new.foldlM (addPath fragment) paths := by
  induction new generalizing paths with
  | nil => rfl
  | cons entry rest ih =>
      rw [List.map_cons, List.foldlM_cons, List.foldlM_cons, accept]
      cases addPath fragment paths entry with
      | error e => rfl
      | ok merged => exact ih merged

theorem foldlM_accept_partial (f : Fragment) (merged : Entries × Sections) :
    (ofPartial f).foldlM accept merged = addPartial merged f := by
  rw [ofPartial, List.foldlM_append, foldlM_accept_paths, addPartial, Fragment.paths_eq]
  cases (f.entriesUnder "paths").foldlM (addPath f.name) merged.1 with
  | error e => rfl
  | ok paths =>
      change List.foldlM accept (paths, merged.2) (ofComponents f) = _
      rw [foldlM_accept_components]
      cases addComponents merged.2 f <;> rfl

/-- Combining fragments is one pass over their contributions. -/
theorem combine_eq_foldlM_accept (schemas responses security : Fragment)
    (partials : List Fragment) :
    combine schemas responses security partials =
      (inOrder schemas responses security partials).foldlM accept ([], []) := by
  have hshared (shared : List Fragment) (sections : Sections) :
      (shared.flatMap ofComponents).foldlM accept ([], sections) =
        (([] : Entries), ·) <$> shared.foldlM addComponents sections := by
    induction shared generalizing sections with
    | nil => rfl
    | cons f rest ih =>
        rw [List.flatMap_cons, List.foldlM_append, List.foldlM_cons, foldlM_accept_components]
        cases addComponents sections f with
        | error e => rfl
        | ok merged => exact ih merged
  rw [inOrder, List.foldlM_append, hshared, combine]
  simp only [foldlM_flatMap_except, foldlM_accept_partial]
  cases [schemas, responses, security].foldlM addComponents [] <;> rfl

section Outcome

variable {info : ContractInfo} {schemas responses security : Fragment} {partials : List Fragment}

theorem combine_of_accepted (h : Accepted (inOrder schemas responses security partials)) :
    combine schemas responses security partials =
      .ok (pathEntries (inOrder schemas responses security partials),
        gather (inOrder schemas responses security partials)) := by
  rw [combine_eq_foldlM_accept, foldlM_accept_of_accepted h]

theorem merge_of_accepted (h : Accepted (inOrder schemas responses security partials)) :
    merge info schemas responses security partials =
      .ok (document info (pathEntries (inOrder schemas responses security partials))
        (gather (inOrder schemas responses security partials))) := by
  rw [merge, combine_of_accepted h]
  rfl

theorem merge_of_firstViolation {e : ContractError}
    (h : FirstViolation (inOrder schemas responses security partials) e) :
    merge info schemas responses security partials = .error e := by
  rw [merge, combine_eq_foldlM_accept, foldlM_accept_of_firstViolation h]
  rfl

/-- A merge succeeds exactly if all contributions are accepted, with what they make up. -/
theorem merge_eq_ok_iff {root : Json} :
    merge info schemas responses security partials = .ok root ↔
      Accepted (inOrder schemas responses security partials) ∧
        root = document info (pathEntries (inOrder schemas responses security partials))
          (gather (inOrder schemas responses security partials)) := by
  rcases accepted_or_firstViolation (inOrder schemas responses security partials) with
    haccepted | ⟨e, he⟩
  · rw [merge_of_accepted haccepted]
    simp [haccepted, eq_comm]
  · rw [merge_of_firstViolation he]
    constructor
    · intro h
      cases h
    · rintro ⟨haccepted, -⟩
      obtain ⟨before, c, after, hsplit, hc, -⟩ := he
      rw [haccepted before c after hsplit] at hc
      cases hc

/-- A merge fails exactly with the first violation. -/
theorem merge_eq_error_iff {e : ContractError} :
    merge info schemas responses security partials = .error e ↔
      FirstViolation (inOrder schemas responses security partials) e := by
  refine ⟨?_, merge_of_firstViolation⟩
  intro h
  rcases accepted_or_firstViolation (inOrder schemas responses security partials) with
    haccepted | ⟨e', he'⟩
  · rw [merge_of_accepted haccepted] at h
    cases h
  · rw [merge_of_firstViolation he'] at h
    cases h
    exact he'

end Outcome

end Merge

end RouteContract
