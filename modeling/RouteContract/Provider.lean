import RouteContract.Lint.Rules
import RouteContract.Merge
import RouteContract.Yaml.Printer

/-!
The provider of the composed contract. The first successful warm-up loads, lints and merges the
fragments and keeps the result; until then every attempt starts over, and afterwards the fragments
are not looked at again.
-/

namespace RouteContract

/-- What answers the shared fragments and the partials when it is asked for them. It may answer
differently each time. -/
structure Loader (m : Type → Type) where
  shared : m (Except ContractError (List Fragment))
  partials : m (Except ContractError (List Fragment))

/-- What a loader has answered. -/
abbrev Loaded := Loader Id

/-- A composed contract, ready to serve. -/
structure Composed where
  root : Json
  json : String
  yaml : String
  version : String
  fragmentCount : Nat
  pathCount : Nat

namespace Composed

/-- The contract of a merged document. -/
def ofRoot (root : Json) (fragmentCount : Nat) : Composed where
  root
  json := root.pretty
  yaml := Yaml.render root
  version := ((root.get? "openapi").bind Json.asText?).getD formatVersion
  fragmentCount
  pathCount := (((root.get? "paths").bind Json.asObject?).getD []).length

end Composed

/-- How a contract is composed: its description and the lint rules. -/
structure Composer where
  info : ContractInfo := {}
  options : Lint.Options := {}

namespace Composer

/-- The lint errors of the fragments: shared ones may lack paths. -/
def fragmentErrors (c : Composer) (shared partials : List Fragment) : List String :=
  shared.flatMap (fun f => c.options.lint f.name f.root false) ++
    partials.flatMap (fun f => c.options.lint f.name f.root true)

/-- Composes loaded fragments. -/
def compose (c : Composer) (shared partials : List Fragment) : Except ContractError Composed :=
  match shared with
  | schemas :: responses :: security :: _ => do
    let root ← merge c.info schemas responses security partials
    let errors := c.fragmentErrors shared partials ++ c.options.lint "merged" root true
    if errors.isEmpty then .ok (Composed.ofRoot root (shared.length + partials.length))
    else .error (.invalid errors)
  | _ => .error (.tooFewShared shared.length)

/-- Composes what a loader answers. The partials are asked for only if the shared fragments could be
loaded. -/
def composeFrom {m : Type → Type} [Monad m] (c : Composer) (loader : Loader m) :
    m (Except ContractError Composed) := do
  match ← loader.shared with
  | .error e => return .error e
  | .ok shared =>
    match ← loader.partials with
    | .error e => return .error e
    | .ok partials => return c.compose shared partials

/-- Composes what a loader has answered. -/
def composeLoaded (c : Composer) (loaded : Loaded) : Except ContractError Composed :=
  c.composeFrom loaded

/-- What is said about the documents that are linted while composing. -/
def notices (c : Composer) (shared partials : List Fragment) : List String :=
  let lintNotice (requirePaths : Bool) (name : String) (root : Json) :=
    Lint.notice name (c.options.lint name root requirePaths)
  shared.flatMap (fun f => lintNotice false f.name f.root) ++
    partials.flatMap (fun f => lintNotice true f.name f.root) ++
    match shared with
    | schemas :: responses :: security :: _ =>
      match merge c.info schemas responses security partials with
      | .ok root => lintNotice true "merged" root
      | .error _ => []
    | _ => []

end Composer

/-- A provider: how it composes, what it keeps, and how often it has loaded. -/
structure Provider where
  composer : Composer
  kept : Option Composed := none
  loadCount : Nat := 0

namespace Provider

/-- Composes the contract unless it is kept already. -/
def warmUp {m : Type → Type} [Monad m] (p : Provider) (loader : Loader m) :
    m (Except ContractError Unit × Provider) := do
  match p.kept with
  | some _ => return (.ok (), p)
  | none =>
    match ← p.composer.composeFrom loader with
    | .ok document =>
      return (.ok (), { p with kept := some document, loadCount := p.loadCount + 1 })
    | .error e => return (.error e, p)

def document (p : Provider) : Except ContractError Composed :=
  match p.kept with
  | some document => .ok document
  | none => .error .notLoaded

def isLoaded (p : Provider) : Bool :=
  p.kept.isSome

end Provider

end RouteContract
