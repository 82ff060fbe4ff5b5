import RouteContract.Error
import RouteContract.Yaml.Node

/-!
Fragments of a contract: named documents read from YAML or JSON text.
-/

namespace RouteContract

/-- The version of the contract format that is written and accepted. -/
def formatVersion : String := "3.1.0"

structure Fragment where
  /-- The name that messages show. -/
  name : String
  /-- Where the text came from. -/
  origin : String
  root : Json
  /-- The text as it was read. -/
  raw : String
  /-- No object of a fragment has a name twice. -/
  distinct : root.hasDistinctNames

namespace Fragment

/-- Reads a fragment; its root must be a mapping. -/
def parse (name origin raw : String) : Except ContractError Fragment :=
  if Text.isBlankText raw then .error (.emptyResource origin)
  else
    match read : Yaml.parseJson? raw with
    | none => .error (.malformed origin)
    | some root =>
      if root.isObject then
        .ok ⟨name, origin, root, raw, Yaml.hasDistinctNames_of_parseJson? read⟩
      else .error (.rootNotMapping origin)

/-- The members of `paths`, if that is an object. -/
def paths (f : Fragment) : List (String × Json) :=
  ((f.root.get? "paths").bind Json.asObject?).getD []

/-- The members of `components`, if that is an object. -/
def components (f : Fragment) : List (String × Json) :=
  ((f.root.get? "components").bind Json.asObject?).getD []

def pathCount (f : Fragment) : Nat :=
  f.paths.length

end Fragment

end RouteContract
