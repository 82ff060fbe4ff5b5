import RouteContract.Loader
import RouteContract.Lint.Rules
import RouteContract.Merge
import RouteContract.Resources

/-!
The configuration of a composition: what the contract says about itself, which fragments it is made
of, and the lint rules. It is YAML; a field that wants text takes any scalar by its text.
-/

namespace RouteContract

open Files (Access)

structure Config where
  serverUrl : Option String := none
  title : Option String := none
  description : Option String := none
  /-- Paths of the shared fragments. -/
  shared : List String := standardShared.map (·.path)
  partials : List String := []
  lint : Lint.Options := {}
  /-- The directory that the paths start from. -/
  baseDir : String := ""
  deriving DecidableEq, Repr

namespace Config

open Yaml (Node)

/-- Whether a node is an empty plain scalar, which stands for an empty collection. -/
def isOmitted : Node → Bool
  | .scalar _ text plain => text.isEmpty && plain
  | _ => false

/-- The text of any scalar. -/
def text? : Node → Option String
  | .scalar _ text _ => some text
  | _ => none

/-- An optional text: a plain null is none. -/
def optionalText? : Node → Option (Option String)
  | .scalar tag text plain =>
    if !plain then some (some text)
    else
      match tag with
      | some tag =>
        if tag == .standard "null" then if Yaml.isNullWord text then some none else none
        else some (some text)
      | none => some (if text.isEmpty || Yaml.isNullWord text then none else some text)
  | _ => none

/-- A list of texts. -/
def texts? (node : Node) : Option (List String) :=
  match node with
  | .sequence _ items => items.mapM text?
  | _ => if isOmitted node then some [] else none

/-- The members of a mapping by the text of their keys. -/
def fields? (node : Node) : Option (List (String × Node)) :=
  match node with
  | .mapping _ members => members.mapM fun (key, value) => key.keyText?.map (·, value)
  | _ => if isOmitted node then some [] else none

/-- A field that may be given once, decoded, or a default if it is not given. -/
def field? {α : Type} (fields : List (String × Node)) (name : String) (decode : Node → Option α)
    (default : α) : Option α :=
  match fields.filter (·.1 == name) with
  | [] => some default
  | [(_, node)] => decode node
  | _ => none

/-- Lint options; unknown names are ignored. -/
def lintOptions? (node : Node) : Option Lint.Options := do
  let fields ← fields? node
  let requiredStatuses ← field? fields "requiredErrorResponses" texts? []
  let sensitiveNames ← field? fields "sensitiveFieldNames" texts? []
  let genericSegments ← field? fields "disallowedGenericSegments" texts? []
  some { requiredStatuses, sensitiveNames, genericSegments }

def ofNode? (baseDir : String) (node : Node) : Option Config := do
  let fields ← fields? node
  let serverUrl ← field? fields "serverUrl" optionalText? none
  let title ← field? fields "title" optionalText? none
  let description ← field? fields "description" optionalText? none
  let shared ← field? fields "common" texts? (standardShared.map (·.path))
  let partials ← field? fields "partials" texts? []
  let lint ← field? fields "lint" lintOptions? {}
  some { serverUrl, title, description, shared, partials, lint, baseDir }

/-- What stands at a place of a configuration. -/
inductive Part where
  | config
  | lint
  /-- A place of which everything is read. -/
  | whole
  deriving DecidableEq, Repr

/-- The outline of a configuration: the members that are known. -/
def Part.outline : Outline Part where
  member
    | config, name =>
      if name == "lint" then some lint
      else if ["serverUrl", "title", "description", "common", "partials"].contains name then
        some whole
      else none
    | lint, name =>
      if ["requiredErrorResponses", "sensitiveFieldNames", "disallowedGenericSegments"].contains
          name then
        some whole
      else none
    | whole, _ => some whole
  item _ _ := some .whole

/-- Reads a configuration whose paths start from `baseDir`. Members that are not known are
skipped. -/
def parse (text baseDir : String) : Except ContractError Config :=
  match (Yaml.parseAlong? Part.outline .config text).bind (ofNode? baseDir) with
  | some config => .ok config
  | none => .error .badConfiguration

/-- Reads a configuration file; its paths start from the directory it is in. -/
def load {m : Type → Type} [Monad m] [Access m] (path : String) :
    m (Except ContractError Config) := do
  match ← Access.readText path with
  | .error reason => return .error (.io reason.text)
  | .ok text => return parse text ((Files.parent? path).getD "")

/-- The name of the fragment in a file. -/
def fragmentName (path : String) : String :=
  (Files.fileStem? path).getD path

/-- The fragments to load. The first three shared ones have fixed names. -/
def plan (c : Config) : FragmentPlan where
  shared := c.shared.zipIdx.map fun (path, i) =>
    ⟨(standardShared[i]?.map (·.name)).getD (fragmentName path), path⟩
  partials := c.partials.map fun path => ⟨fragmentName path, path⟩

/-- What the contract says about itself. -/
def info (c : Config) : ContractInfo :=
  let usual : ContractInfo := {}
  { serverUrl := c.serverUrl.getD usual.serverUrl
    title := c.title.getD usual.title
    description := c.description.getD usual.description }

def textJson (o : Option String) : Json :=
  match o with
  | some s => .str s
  | none => .null

def textsJson (xs : List String) : Json :=
  .arr (xs.map .str)

def lintJson (o : Lint.Options) : Json :=
  .obj [
    ("requiredErrorResponses", textsJson o.requiredStatuses),
    ("sensitiveFieldNames", textsJson o.sensitiveNames),
    ("disallowedGenericSegments", textsJson o.genericSegments)]

/-- The configuration as a JSON value. -/
def toJson (c : Config) : Json :=
  .obj [
    ("serverUrl", textJson c.serverUrl),
    ("title", textJson c.title),
    ("description", textJson c.description),
    ("common", textsJson c.shared),
    ("partials", textsJson c.partials),
    ("lint", lintJson c.lint)]

/-- Texts of a JSON array. -/
def jsonTexts? : Json → Option (List String)
  | .arr items => items.mapM Json.asText?
  | _ => none

/-- Lint options from a JSON value: an object with optional lists, or the lists in order. -/
def lintOptionsOfJson? : Json → Option Lint.Options
  | .obj members => do
    let list (name : String) : Option (List String) :=
      match members.lookup name with
      | some j => jsonTexts? j
      | none => some []
    let requiredStatuses ← list "requiredErrorResponses"
    let sensitiveNames ← list "sensitiveFieldNames"
    let genericSegments ← list "disallowedGenericSegments"
    some { requiredStatuses, sensitiveNames, genericSegments }
  | .arr items =>
    if 3 < items.length then none
    else do
      let lists ← items.mapM jsonTexts?
      some ⟨lists.getD 0 [], lists.getD 1 [], lists.getD 2 []⟩
  | _ => none

end Config

end RouteContract
