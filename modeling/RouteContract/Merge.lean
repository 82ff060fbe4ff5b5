import RouteContract.Fragment

/-!
Merging fragments into one contract. The three shared fragments contribute components; each partial
contributes paths and components. A path may come from one partial only, and a component that is
defined twice must be defined the same.
-/

namespace RouteContract

/-- What a merged contract says about itself. -/
structure ContractInfo where
  serverUrl : String := "https://localhost:5001"
  title : String := "API"
  description : String := "Consolidated OpenAPI contract."
  deriving DecidableEq, Repr

namespace Merge

/-- A section of components under construction. -/
abbrev Entries := List (String × Json)

/-- Sections of components under construction, by name. -/
abbrev Sections := List (String × Entries)

/-- Adds a definition to a section; the same definition again changes nothing. -/
def addEntry (sectionName : String) (entries : Entries) (entry : String × Json) :
    Except ContractError Entries :=
  match entries.lookup entry.1 with
  | none => .ok (entries ++ [entry])
  | some existing =>
    if existing.same entry.2 then .ok entries
    else .error (.conflictingComponent sectionName entry.1 existing entry.2)

/-- Adds the definitions of a section. -/
def addEntries (sectionName : String) (entries new : Entries) : Except ContractError Entries :=
  new.foldlM (addEntry sectionName) entries

/-- Adds a section, which is skipped if it is no object. An empty section is kept. -/
def addSection (sections : Sections) (new : String × Json) : Except ContractError Sections :=
  match new.2 with
  | .obj entries => do
    let merged ← addEntries new.1 ((sections.lookup new.1).getD []) entries
    .ok (Json.setMember new.1 merged sections)
  | _ => .ok sections

/-- Adds the components of a fragment. -/
def addComponents (sections : Sections) (f : Fragment) : Except ContractError Sections :=
  f.components.foldlM addSection sections

/-- Adds a path, which no earlier partial may have. -/
def addPath (fragment : String) (paths : Entries) (path : String × Json) :
    Except ContractError Entries :=
  if (paths.lookup path.1).isSome then .error (.duplicatePath path.1 fragment)
  else .ok (paths ++ [path])

/-- Adds the paths of a partial, then its components. -/
def addPartial (merged : Entries × Sections) (f : Fragment) :
    Except ContractError (Entries × Sections) := do
  let paths ← f.paths.foldlM (addPath f.name) merged.1
  let sections ← addComponents merged.2 f
  .ok (paths, sections)

/-- The paths and components of all fragments. -/
def combine (schemas responses security : Fragment) (partials : List Fragment) :
    Except ContractError (Entries × Sections) := do
  let sections ← [schemas, responses, security].foldlM addComponents []
  partials.foldlM addPartial ([], sections)

/-- The document that holds merged paths and components. -/
def document (info : ContractInfo) (paths : Entries) (sections : Sections) : Json :=
  .obj [
    ("openapi", .str formatVersion),
    ("info", .obj [
      ("title", .str info.title),
      ("version", .str "1.0.0"),
      ("description", .str info.description)]),
    ("servers", .arr [.obj [
      ("url", .str info.serverUrl),
      ("description", .str "API Gateway")]]),
    ("paths", .obj paths),
    ("components", .obj (sections.map fun (name, entries) => (name, .obj entries)))]

end Merge

/-- Merges three shared fragments and any number of partials. -/
def merge (info : ContractInfo) (schemas responses security : Fragment)
    (partials : List Fragment) : Except ContractError Json := do
  let (paths, sections) ← Merge.combine schemas responses security partials
  .ok (Merge.document info paths sections)

end RouteContract
