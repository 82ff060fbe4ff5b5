import RouteContract.Proofs.Merge.Exactness
import RouteContract.Proofs.Provider.Cache
import RouteContract.Proofs.Table

/-!
What a composed contract keeps of the fragments it was made of. A warm-up that succeeds has merged
the first three shared fragments and all partials, and every component that one of these defines is
found in the kept contract. A shared fragment behind the third one is linted and counted but is not
merged, and what it defines is lost.
-/

namespace RouteContract

/-- The component of a contract under the name of a section and a key. -/
def Json.component? (root : Json) (sectionName key : String) : Option Json :=
  ((root.get? "components").bind (·.get? sectionName)).bind (·.get? key)

namespace Merge

variable {info : ContractInfo} {schemas responses security : Fragment} {partials : List Fragment}

theorem component?_document (paths : Entries) (sections : Sections) (name key : String) :
    (document info paths sections).component? name key =
      ((sections.lookup name).getD []).lookup key := by
  have hsection : (Json.obj (sections.map fun s => (s.1, .obj s.2))).get? name =
      (sections.lookup name).map .obj :=
    Table.lookup_map_snd Json.obj sections name
  rw [Json.component?, show (document info paths sections).get? "components" =
    some (.obj (sections.map fun s => (s.1, .obj s.2))) from rfl, Option.bind_some, hsection]
  cases sections.lookup name <;> rfl

/-- The component of a merged contract is the first definition that the fragments give. -/
theorem component?_of_merge {root : Json}
    (h : merge info schemas responses security partials = .ok root) (name key : String) :
    root.component? name key =
      (allDefinitions (schemas :: responses :: security :: partials) name).lookup key := by
  obtain ⟨-, rfl⟩ := merge_eq_ok_iff.mp h
  rw [component?_document, lookup_gather, Json.lookup_firsts, definitionsIn_inOrder]

/-- Every definition of a merged fragment is the same as the component of its section and key. -/
theorem same_component?_of_merge {root : Json}
    (h : merge info schemas responses security partials = .ok root) {f : Fragment}
    (hf : f ∈ schemas :: responses :: security :: partials) {name : String}
    {definition : String × Json} (hdefinition : definition ∈ (f.definitions? name).getD []) :
    ∃ component, root.component? name definition.1 = some component ∧
      component.same definition.2 := by
  obtain ⟨haccepted, -⟩ := merge_eq_ok_iff.mp h
  obtain ⟨-, hconsistent⟩ := (accepted_inOrder_iff schemas responses security partials).mp haccepted
  have hmem : definition ∈
      allDefinitions (schemas :: responses :: security :: partials) name :=
    List.mem_flatMap.mpr ⟨f, hf, hdefinition⟩
  have hfound : ((allDefinitions (schemas :: responses :: security :: partials) name).lookup
      definition.1).isSome :=
    Table.lookup_isSome_iff.mpr (List.mem_map_of_mem hmem)
  obtain ⟨component, hcomponent⟩ := Option.isSome_iff_exists.mp hfound
  refine ⟨component, (component?_of_merge h name _).trans hcomponent, ?_⟩
  exact hconsistent name _ (Table.mem_of_lookup hcomponent) _ hmem rfl

end Merge

namespace Composer

variable {c : Composer} {shared partials : List Fragment} {document : Composed}

/-- A composed contract is the merge of three shared fragments and all partials. -/
theorem merge_of_compose (h : c.compose shared partials = .ok document) :
    ∃ schemas responses security rest, shared = schemas :: responses :: security :: rest ∧
      merge c.info schemas responses security partials = .ok document.root ∧
      document.fragmentCount = shared.length + partials.length := by
  unfold compose at h
  split at h
  · next schemas responses security rest =>
    cases hmerge : merge c.info schemas responses security partials with
    | error e =>
        rw [hmerge] at h
        cases h
    | ok root =>
        rw [hmerge] at h
        dsimp only [bind, Except.bind] at h
        split at h
        · cases h
          exact ⟨schemas, responses, security, rest, rfl, hmerge, rfl⟩
        · cases h
  · cases h

/-- What a loader must have answered where its answers could be composed. -/
theorem loads_of_composeFrom {σ : Type} {loader : Loader (StateM σ)} {world world' : σ}
    (h : (c.composeFrom loader).run world = (.ok document, world')) :
    ∃ shared partials between, loader.shared.run world = (.ok shared, between) ∧
      loader.partials.run between = (.ok partials, world') ∧
      c.compose shared partials = .ok document := by
  rw [composeFrom, StateT.run_bind] at h
  cases hshared : loader.shared.run world with
  | mk result between =>
      rw [hshared] at h
      cases result with
      | error e => cases h
      | ok shared =>
          cases hpartials : loader.partials.run between with
          | mk result world'' =>
              change (loader.partials >>= _).run between = _ at h
              rw [StateT.run_bind, hpartials] at h
              cases result with
              | error e => cases h
              | ok partials =>
                  obtain ⟨hcompose, rfl⟩ := Prod.mk.inj h
                  exact ⟨shared, partials, between, rfl, hpartials, hcompose⟩

end Composer

namespace Provider

variable {σ : Type}

/-- Nothing that is merged is lost. A warm-up that succeeds either finds a kept contract and loads
nothing; or the loader has answered shared fragments and partials, all of which the contract that is
kept then counts, and every definition in a section of one of the first three shared fragments or of
a partial is found in the same section of the contract under its key, with the same value. -/
theorem components_kept (p p' : Provider) (loader : Loader (StateM σ)) (world world' : σ)
    (hwarm : (p.warmUp loader).run world = ((.ok (), p'), world')) :
    (p.isLoaded ∧ p' = p ∧ world' = world) ∨
    ∃ shared partials between document, loader.shared.run world = (.ok shared, between) ∧
      loader.partials.run between = (.ok partials, world') ∧ p'.document = .ok document ∧
      3 ≤ shared.length ∧ document.fragmentCount = shared.length + partials.length ∧
      ∀ f ∈ shared.take 3 ++ partials, ∀ sectionName definitions,
        f.definitions? sectionName = some definitions → ∀ definition ∈ definitions,
          ∃ component, document.root.component? sectionName definition.1 = some component ∧
            component.same definition.2 := by
  cases hkept : p.kept with
  | some document =>
      rw [warmUp_of_kept hkept] at hwarm
      cases hwarm
      exact Or.inl ⟨by rw [isLoaded, hkept]; rfl, rfl, rfl⟩
  | none =>
      refine Or.inr ?_
      cases hcompose : (p.composer.composeFrom loader).run world with
      | mk result after =>
          rw [warmUp, hkept, StateT.run_bind, hcompose] at hwarm
          cases result with
          | error e => cases hwarm
          | ok document =>
              cases hwarm
              obtain ⟨shared, partials, between, hshared, hpartials, hdocument⟩ :=
                Composer.loads_of_composeFrom hcompose
              obtain ⟨schemas, responses, security, rest, rfl, hmerge, hcount⟩ :=
                Composer.merge_of_compose hdocument
              refine ⟨_, partials, between, document, hshared, hpartials, rfl, by simp, hcount, ?_⟩
              intro f hf sectionName definitions hdefinitions definition hdefinition
              have hdefined : definition ∈ (f.definitions? sectionName).getD [] := by
                rw [hdefinitions]
                exact hdefinition
              exact Merge.same_component?_of_merge hmerge (by simpa using hf) hdefined

/-- A contract whose third shared fragment and whose partial each define a schema. -/
theorem components_kept_items :
    let blank : Fragment := ⟨"blank", "blank.json", .obj [("openapi", .str "3.1.0")], "", rfl⟩
    let third : Fragment := ⟨"security", "security.json", .obj [("openapi", .str "3.1.0"),
      ("components", .obj [("schemas", .obj [("Id", .obj [])])])], "", rfl⟩
    let items : Fragment := ⟨"items", "items.json", .obj [("openapi", .str "3.1.0"),
      ("paths", .obj [("/v1/items", .obj [])]),
      ("components", .obj [("schemas", .obj [("Item", .null), ("Id", .obj [])])])], "", rfl⟩
    let loader : Loader (StateM Unit) := ⟨pure (.ok [blank, blank, third]), pure (.ok [items])⟩
    let p : Provider := { composer := {} }
    ∃ p' document, (p.warmUp loader).run () = ((.ok (), p'), ()) ∧ p'.document = .ok document ∧
      document.fragmentCount = 4 ∧
      (∃ component, document.root.component? "schemas" "Id" = some component ∧
        component.same (.obj [])) ∧
      ∃ component, document.root.component? "schemas" "Item" = some component ∧
        component.same .null := by
  intro blank third items loader p
  have hwarm : (p.warmUp loader).run () = ((.ok (), ((p.warmUp loader).run ()).1.2), ()) := rfl
  rcases components_kept p _ loader () () hwarm with ⟨hloaded, -, -⟩ |
    ⟨shared, partials, between, document, hshared, hpartials, hdocument, -, hcount, hfound⟩
  · cases hloaded
  · cases hshared
    cases hpartials
    refine ⟨_, document, hwarm, hdocument, hcount, ?_, ?_⟩
    · exact hfound third (by simp) "schemas" _ rfl ("Id", .obj []) (by simp)
    · exact hfound items (by simp) "schemas" _ rfl ("Item", .null) (by simp)

/-- A fourth shared fragment is loaded, linted and counted; its schema is not in the contract. -/
theorem components_lost_behind_third :
    let blank : Fragment := ⟨"blank", "blank.json", .obj [("openapi", .str "3.1.0")], "", rfl⟩
    let fourth : Fragment := ⟨"extra", "extra.json", .obj [("openapi", .str "3.1.0"),
      ("components", .obj [("schemas", .obj [("Extra", .obj [])])])], "", rfl⟩
    let items : Fragment := ⟨"items", "items.json", .obj [("openapi", .str "3.1.0"),
      ("paths", .obj [("/v1/items", .obj [])])], "", rfl⟩
    let loader : Loader (StateM Unit) :=
      ⟨pure (.ok [blank, blank, blank, fourth]), pure (.ok [items])⟩
    let p : Provider := { composer := {} }
    ∃ p' document, (p.warmUp loader).run () = ((.ok (), p'), ()) ∧ p'.document = .ok document ∧
      document.fragmentCount = 5 ∧
      fourth.definitions? "schemas" = some [("Extra", .obj [])] ∧
      document.root.component? "schemas" "Extra" = none :=
  ⟨_, _, rfl, rfl, rfl, rfl, rfl⟩

end Provider

end RouteContract
