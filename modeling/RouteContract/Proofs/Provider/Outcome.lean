import Mathlib.Tactic
import RouteContract.Proofs.Lint.Merged
import RouteContract.Proofs.Provider.Components

/-!
How a warm-up ends that finds nothing kept. The loader is asked for the shared fragments and then,
unless this fails, for the partials; the first failure is the outcome. From there on the outcome
depends on the loaded fragments alone: there may be too few shared ones, they may not merge, or the
rules may object to a fragment or to the merged contract. Otherwise the merged contract is kept. All
its paths come from the partials, and a merge neither drops nor joins any, so that their number is
the sum of the numbers of the partials.
-/

namespace RouteContract

namespace Composer

variable {c : Composer} {shared partials rest : List Fragment}
  {schemas responses security : Fragment} {root : Json} {e : ContractError}

theorem compose_of_few (hfew : shared.length < 3) :
    c.compose shared partials = .error (.tooFewShared shared.length) := by
  unfold compose
  split
  · simp only [List.length_cons] at hfew
    omega
  · rfl

theorem compose_of_conflict
    (hmerge : merge c.info schemas responses security partials = .error e) :
    c.compose (schemas :: responses :: security :: rest) partials = .error e := by
  rw [compose, hmerge]
  rfl

/-- Where the fragments merge, the outcome hangs on the errors of all documents. Those of the
fragments come first. -/
theorem compose_of_merge
    (hmerge : merge c.info schemas responses security partials = .ok root) :
    let shared := schemas :: responses :: security :: rest
    let errors := c.fragmentErrors shared partials ++ c.options.lint "merged" root true
    c.compose shared partials =
      if errors.isEmpty then .ok (Composed.ofRoot root (shared.length + partials.length))
      else .error (.invalid errors) := by
  intro shared errors
  rw [compose, hmerge]
  rfl

/-- What is served of a merged contract besides its text. -/
theorem ofRoot_of_merge {info : ContractInfo}
    (hmerge : merge info schemas responses security partials = .ok root) (fragmentCount : Nat) :
    (Composed.ofRoot root fragmentCount).version = "3.1.0" ∧
      (Composed.ofRoot root fragmentCount).pathCount = (partials.map Fragment.pathCount).sum := by
  have hpaths := congrArg List.length (Lint.pathsOf_of_merge hmerge)
  rw [List.length_flatMap] at hpaths
  simp only [← Fragment.paths_eq] at hpaths
  obtain ⟨-, rfl⟩ := Merge.merge_eq_ok_iff.mp hmerge
  exact ⟨rfl, hpaths⟩

end Composer

namespace Provider

variable {σ : Type} {p : Provider} {loader : Loader (StateM σ)} {world between after : σ}
  {shared partials : List Fragment} {e : ContractError}

theorem warmUp_of_composed (hkept : p.kept = none) {document : Composed}
    (hcompose : (p.composer.composeFrom loader).run world = (.ok document, after)) :
    (p.warmUp loader).run world =
      ((.ok (), { p with kept := some document, loadCount := p.loadCount + 1 }), after) := by
  rw [warmUp, hkept, StateT.run_bind, hcompose]
  rfl

theorem warmUp_of_error (hkept : p.kept = none)
    (hcompose : (p.composer.composeFrom loader).run world = (.error e, after)) :
    (p.warmUp loader).run world = ((.error e, p), after) := by
  rw [warmUp, hkept, StateT.run_bind, hcompose]
  rfl

theorem composeFrom_of_shared_error {c : Composer}
    (hshared : loader.shared.run world = (.error e, after)) :
    (c.composeFrom loader).run world = (.error e, after) := by
  rw [Composer.composeFrom, StateT.run_bind, hshared]
  rfl

theorem composeFrom_of_shared {c : Composer} {loaded : Except ContractError (List Fragment)}
    (hshared : loader.shared.run world = (.ok shared, between))
    (hpartials : loader.partials.run between = (loaded, after)) :
    (c.composeFrom loader).run world = (loaded.bind (c.compose shared), after) := by
  rw [Composer.composeFrom, StateT.run_bind, hshared]
  change (loader.partials >>= _).run between = _
  rw [StateT.run_bind, hpartials]
  cases loaded <;> rfl

/-- The outcome of a warm-up that finds nothing kept. A loader that fails is the outcome, and one
that fails for the shared fragments is not asked for the partials. Else there are too few shared
fragments, or those loaded cannot be merged, or there are errors: of the shared fragments, which
need no paths, then of the partials, which need some, then of the merged contract. Where there are
none the warm-up succeeds, and the provider keeps the merged contract. In every other case the
provider is left as it was. -/
theorem warmUp_outcome (p : Provider) (hnew : p.isLoaded = false) (loader : Loader (StateM σ))
    (world : σ) :
    (∀ e after, loader.shared.run world = (.error e, after) →
      (p.warmUp loader).run world = ((.error e, p), after)) ∧
    ∀ shared between, loader.shared.run world = (.ok shared, between) →
      (∀ e after, loader.partials.run between = (.error e, after) →
        (p.warmUp loader).run world = ((.error e, p), after)) ∧
      ∀ partials after, loader.partials.run between = (.ok partials, after) →
        (shared.length < 3 →
          (p.warmUp loader).run world = ((.error (.tooFewShared shared.length), p), after)) ∧
        ∀ schemas responses security rest, shared = schemas :: responses :: security :: rest →
          (∀ e, merge p.composer.info schemas responses security partials = .error e →
            (p.warmUp loader).run world = ((.error e, p), after)) ∧
          ∀ root, merge p.composer.info schemas responses security partials = .ok root →
            let lint := p.composer.options.lint
            let errors := shared.flatMap (fun f => lint f.name f.root false) ++
              partials.flatMap (fun f => lint f.name f.root true) ++ lint "merged" root true
            (errors ≠ [] →
              (p.warmUp loader).run world = ((.error (.invalid errors), p), after)) ∧
            (errors = [] → ∃ p' document,
              (p.warmUp loader).run world = ((.ok (), p'), after) ∧
              p'.document = .ok document ∧ document.root = root ∧ document.version = "3.1.0" ∧
              document.fragmentCount = shared.length + partials.length ∧
              document.pathCount = (partials.map Fragment.pathCount).sum) := by
  have hkept : p.kept = none := by simpa [isLoaded] using hnew
  refine ⟨?_, ?_⟩
  · intro e after hshared
    exact warmUp_of_error hkept (composeFrom_of_shared_error hshared)
  intro shared between hshared
  refine ⟨?_, ?_⟩
  · intro e after hpartials
    exact warmUp_of_error hkept (composeFrom_of_shared hshared hpartials)
  intro partials after hpartials
  have hcompose : (p.composer.composeFrom loader).run world =
      (p.composer.compose shared partials, after) := composeFrom_of_shared hshared hpartials
  refine ⟨?_, ?_⟩
  · intro hfew
    rw [Composer.compose_of_few hfew] at hcompose
    exact warmUp_of_error hkept hcompose
  rintro schemas responses security rest rfl
  refine ⟨?_, ?_⟩
  · intro e hmerge
    rw [Composer.compose_of_conflict hmerge] at hcompose
    exact warmUp_of_error hkept hcompose
  intro root hmerge lint errors
  let shared := schemas :: responses :: security :: rest
  have hroot : p.composer.compose shared partials =
      if errors.isEmpty then .ok (Composed.ofRoot root (shared.length + partials.length))
      else .error (.invalid errors) := Composer.compose_of_merge hmerge
  refine ⟨?_, ?_⟩
  · intro hsome
    rw [hroot, if_neg (mt List.isEmpty_iff.mp hsome)] at hcompose
    exact warmUp_of_error hkept hcompose
  · intro hnone
    rw [hroot, if_pos (List.isEmpty_iff.mpr hnone)] at hcompose
    obtain ⟨hversion, hpaths⟩ := Composer.ofRoot_of_merge hmerge _
    exact ⟨_, _, warmUp_of_composed hkept hcompose, rfl, rfl, hversion, rfl, hpaths⟩

/-- A contract of two partials with three paths, and the errors of the same fragments under rules
that one of them breaks: they are reported for the fragment and again for the merged contract. -/
theorem warmUp_outcome_items :
    let shared : Fragment := ⟨"shared", "shared.json", .obj [("openapi", .str "3.1.0")], "", rfl⟩
    let items : Fragment := ⟨"items", "items.json", .obj [("openapi", .str "3.1.0"),
      ("paths", .obj [("/v1/items", .obj []), ("/v1/data", .obj [])])], "", rfl⟩
    let orders : Fragment := ⟨"orders", "orders.json", .obj [("openapi", .str "3.1.0"),
      ("paths", .obj [("/v1/orders", .obj [])])], "", rfl⟩
    let loader : Loader (StateM Unit) :=
      ⟨pure (.ok [shared, shared, shared]), pure (.ok [items, orders])⟩
    let p : Provider := { composer := {} }
    let strict : Provider := { composer := { options := { genericSegments := ["data"] } } }
    p.isLoaded = false ∧ strict.isLoaded = false ∧
      (∃ p' document, (p.warmUp loader).run () = ((.ok (), p'), ()) ∧
        p'.document = .ok document ∧ document.fragmentCount = 5 ∧ document.pathCount = 3) ∧
      (strict.warmUp loader).run () = ((.error (.invalid
        ["items: path '/v1/data' is too generic", "merged: path '/v1/data' is too generic"]),
          strict), ()) := by
  intro shared items orders loader p strict
  obtain ⟨p', document, hrun, hdocument, -, -, hfragments, hpaths⟩ :=
    ((((warmUp_outcome p rfl loader ()).2 _ _ rfl).2 _ _ rfl).2 _ _ _ _ rfl).2 _ rfl |>.2
      (by decide +kernel)
  have herrors := ((((warmUp_outcome strict rfl loader ()).2 _ _ rfl).2 _ _ rfl).2 _ _ _ _ rfl).2
    _ rfl |>.1 (by decide +kernel)
  exact ⟨rfl, rfl, ⟨p', document, hrun, hdocument, hfragments, hpaths⟩, herrors⟩

end Provider

end RouteContract
