import Mathlib.Tactic
import RouteContract.Provider

/-!
The provider over whole runs. A run is any list of calls on one provider, in any order and with any
number of retries. Its loader has a state of its own, which every load may read and change, so two
loads may answer anything at all, and a load that is made shows in that state.

A call either finds a kept contract and changes nothing, or keeps the contract it has composed and
counts it, or fails and changes nothing but the state of the loader. That a provider has loaded once
if it keeps a contract, and never otherwise, is kept by each of these, and so by every run.
-/

namespace RouteContract.Provider

/-- What a caller may ask of a provider. -/
inductive Call where
  | warmUp
  | document
  | isLoaded
  | loadCount

inductive Answer where
  | warmUp (result : Except ContractError Unit)
  | document (result : Except ContractError Composed)
  | isLoaded (loaded : Bool)
  | loadCount (count : Nat)

variable {σ : Type}

/-- Answers one call. Only a warm-up may load. -/
def answer (loader : Loader (StateM σ)) (p : Provider) : Call → StateM σ (Answer × Provider)
  | .warmUp => do
    let (result, p) ← p.warmUp loader
    return (.warmUp result, p)
  | .document => return (.document p.document, p)
  | .isLoaded => return (.isLoaded p.isLoaded, p)
  | .loadCount => return (.loadCount p.loadCount, p)

/-- Answers calls one after the other. -/
def run (loader : Loader (StateM σ)) : List Call → Provider →
    StateM σ (List Answer × Provider)
  | [], p => return ([], p)
  | c :: cs, p => do
    let (a, p) ← p.answer loader c
    let (as, p) ← run loader cs p
    return (a :: as, p)

/-- What a provider that keeps a contract answers. -/
def keptAnswer (document : Composed) : Call → Answer
  | .warmUp => .warmUp (.ok ())
  | .document => .document (.ok document)
  | .isLoaded => .isLoaded true
  | .loadCount => .loadCount 1

/-- The provider has loaded once if it keeps a contract, and never otherwise. -/
def CountsLoads (p : Provider) : Prop :=
  p.loadCount = if p.kept.isSome then 1 else 0

theorem warmUp_of_kept {m : Type → Type} [Monad m] {p : Provider} {document : Composed}
    (hkept : p.kept = some document) (loader : Loader m) :
    p.warmUp loader = pure (.ok (), p) := by
  rw [warmUp, hkept]

/-- A warm-up without a kept contract composes what the loader answers, and keeps what that gives
or reports why it gives nothing. -/
theorem warmUp_of_not_kept {p : Provider} (hkept : p.kept = none) (loader : Loader (StateM σ))
    (world : σ) :
    ∃ world', (∃ document, (p.warmUp loader).run world =
        ((.ok (), { p with kept := some document, loadCount := p.loadCount + 1 }), world')) ∨
      ∃ e, (p.warmUp loader).run world = ((.error e, p), world') := by
  cases hcompose : (p.composer.composeFrom loader).run world with
  | mk result world' =>
      refine ⟨world', ?_⟩
      rw [warmUp, hkept, StateT.run_bind, hcompose]
      cases result with
      | ok document => exact Or.inl ⟨document, rfl⟩
      | error e => exact Or.inr ⟨e, rfl⟩

/-- Everything that a warm-up can do. -/
theorem warmUp_cases (p : Provider) (loader : Loader (StateM σ)) (world : σ) :
    ((∃ document, p.kept = some document) ∧ (p.warmUp loader).run world = ((.ok (), p), world)) ∨
    (p.kept = none ∧ ∃ document world', (p.warmUp loader).run world =
      ((.ok (), { p with kept := some document, loadCount := p.loadCount + 1 }), world')) ∨
    (p.kept = none ∧ ∃ e world', (p.warmUp loader).run world = ((.error e, p), world')) := by
  cases hkept : p.kept with
  | some document =>
      left
      rw [warmUp_of_kept hkept loader]
      exact ⟨⟨document, rfl⟩, rfl⟩
  | none =>
      right
      obtain ⟨world', hok | herror⟩ := warmUp_of_not_kept hkept loader world
      · obtain ⟨document, hdocument⟩ := hok
        exact Or.inl ⟨rfl, document, world', hdocument⟩
      · obtain ⟨e, he⟩ := herror
        exact Or.inr ⟨rfl, e, world', he⟩

theorem warmUp_countsLoads {p : Provider} (h : p.CountsLoads) (loader : Loader (StateM σ))
    (world : σ) : ((p.warmUp loader).run world).1.2.CountsLoads := by
  rcases warmUp_cases p loader world with
    ⟨-, hrun⟩ | ⟨hkept, document, world', hrun⟩ | ⟨-, e, world', hrun⟩
  · rw [hrun]
    exact h
  · rw [hrun]
    have hzero : p.loadCount = 0 := by simpa [CountsLoads, hkept] using h
    simp [CountsLoads, hzero]
  · rw [hrun]
    exact h

theorem answer_countsLoads {p : Provider} (h : p.CountsLoads) (loader : Loader (StateM σ))
    (c : Call) (world : σ) : ((p.answer loader c).run world).1.2.CountsLoads := by
  cases c with
  | warmUp => exact warmUp_countsLoads h loader world
  | document => exact h
  | isLoaded => exact h
  | loadCount => exact h

/-- A provider that keeps a contract answers every call from it and changes nothing, its loader
included. -/
theorem answer_of_kept {p : Provider} {document : Composed} (h : p.CountsLoads)
    (hkept : p.kept = some document) (loader : Loader (StateM σ)) (c : Call) :
    p.answer loader c = pure (keptAnswer document c, p) := by
  cases c with
  | warmUp =>
      rw [answer, warmUp_of_kept hkept loader]
      rfl
  | document => simp [answer, keptAnswer, Provider.document, hkept]
  | isLoaded => simp [answer, keptAnswer, isLoaded, hkept]
  | loadCount =>
      have hone : p.loadCount = 1 := by simpa [CountsLoads, hkept] using h
      simp [answer, keptAnswer, hone]

theorem run_countsLoads {p : Provider} (h : p.CountsLoads) (loader : Loader (StateM σ))
    (calls : List Call) (world : σ) : ((run loader calls p).run world).1.2.CountsLoads := by
  induction calls generalizing p world with
  | nil => exact h
  | cons c rest ih =>
      have hstep := answer_countsLoads h loader c world
      exact ih hstep ((p.answer loader c).run world).2

theorem run_of_kept {p : Provider} {document : Composed} (h : p.CountsLoads)
    (hkept : p.kept = some document) (loader : Loader (StateM σ)) (calls : List Call) :
    run loader calls p = pure (calls.map (keptAnswer document), p) := by
  induction calls with
  | nil => rfl
  | cons c rest ih =>
      rw [run, answer_of_kept h hkept]
      simp [ih]

/-- The cache over whole runs. After any calls on a new provider, whatever its loader answers: it
has loaded once if it keeps a contract and never otherwise; it has no document to give exactly if
it keeps none; a warm-up that fails leaves what is kept and counted; and after a warm-up that
succeeds there is one document that every later call is answered from, with any loader, none of
which is asked. -/
theorem cache_over_runs (composer : Composer) (loader : Loader (StateM σ)) (calls : List Call)
    (start : σ) :
    let p := ((run loader calls { composer }).run start).1.2
    let world := ((run loader calls { composer }).run start).2
    p.loadCount = (if p.kept.isSome then 1 else 0) ∧
    (p.document = .error .notLoaded ↔ p.kept = none) ∧
    (∀ e p' world', (p.warmUp loader).run world = ((.error e, p'), world') →
      p'.kept = p.kept ∧ p'.loadCount = p.loadCount) ∧
    ∀ p' world', (p.warmUp loader).run world = ((.ok (), p'), world') →
      ∃ document, p'.document = .ok document ∧
        ∀ (other : Loader (StateM σ)) (later : List Call),
          run other later p' = pure (later.map (keptAnswer document), p') := by
  intro p world
  have hnew : ({ composer } : Provider).CountsLoads := rfl
  have hcounts : p.CountsLoads := run_countsLoads hnew loader calls start
  refine ⟨hcounts, ?_, ?_, ?_⟩
  · rw [Provider.document]
    cases p.kept <;> simp
  · intro e p' world' hrun
    rcases warmUp_cases p loader world with ⟨-, h⟩ | ⟨-, document, w, h⟩ | ⟨-, e', w, h⟩
    · rw [h] at hrun
      cases hrun
    · rw [h] at hrun
      cases hrun
    · rw [h] at hrun
      cases hrun
      exact ⟨rfl, rfl⟩
  · intro p' world' hrun
    have hcounts' : p'.CountsLoads := by
      have hstep := warmUp_countsLoads hcounts loader world
      rw [hrun] at hstep
      exact hstep
    obtain ⟨document, hkept⟩ : ∃ document, p'.kept = some document := by
      rcases warmUp_cases p loader world with ⟨hkept, h⟩ | ⟨-, document, w, h⟩ | ⟨-, e, w, h⟩
      · rw [h] at hrun
        cases hrun
        exact hkept
      · rw [h] at hrun
        cases hrun
        exact ⟨document, rfl⟩
      · rw [h] at hrun
        cases hrun
    refine ⟨document, by rw [Provider.document, hkept], ?_⟩
    intro other later
    exact run_of_kept hcounts' hkept other later

end RouteContract.Provider
