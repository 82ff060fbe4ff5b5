import RouteContract.Fragment

/-!
Loading the fragments of a contract: the shared ones and the partials are texts read by path, and
after them come fragments that were generated into a program.
-/

namespace RouteContract

/-- A fragment generated into a program, with the endpoints it was generated from. -/
structure GeneratedSpec where
  yaml : String
  /-- Pairs of verb and path. -/
  endpoints : List (String × String)

def GeneratedSpec.endpointCount (s : GeneratedSpec) : Nat :=
  s.endpoints.length

/-- A fragment to load: its name and the path of its text. -/
structure FragmentRef where
  name : String
  path : String
  deriving DecidableEq, Repr

/-- The fragments that make up a contract. -/
structure FragmentPlan where
  shared : List FragmentRef := []
  partials : List FragmentRef := []
  generated : List (String × GeneratedSpec) := []

/-- The usual layout of the shared fragments. -/
def standardShared : List FragmentRef :=
  ["schemas", "responses", "security"].map fun name => ⟨name, "common/" ++ name ++ ".yaml"⟩

namespace FragmentPlan

variable {m : Type → Type} [Monad m]

/-- Loads fragments in order, up to the first that fails. -/
def loadAll (read : String → m (Except ContractError String)) :
    List FragmentRef → m (Except ContractError (List Fragment))
  | [] => return .ok []
  | r :: rest => do
    match (← read r.path).bind (Fragment.parse r.name r.path) with
    | .error e => return .error e
    | .ok f =>
      match ← loadAll read rest with
      | .error e => return .error e
      | .ok fs => return .ok (f :: fs)

/-- The fragments generated into the program. -/
def loadGenerated (specs : List (String × GeneratedSpec)) : Except ContractError (List Fragment) :=
  specs.mapM fun (name, spec) => Fragment.parse name ("generated:" ++ name) spec.yaml

def loadShared (plan : FragmentPlan) (read : String → m (Except ContractError String)) :
    m (Except ContractError (List Fragment)) :=
  loadAll read plan.shared

def loadPartials (plan : FragmentPlan) (read : String → m (Except ContractError String)) :
    m (Except ContractError (List Fragment)) := do
  match ← loadAll read plan.partials with
  | .error e => return .error e
  | .ok fs => return (loadGenerated plan.generated).map (fs ++ ·)

end FragmentPlan

end RouteContract
