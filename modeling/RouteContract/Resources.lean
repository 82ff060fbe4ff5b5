import RouteContract.Error
import RouteContract.Files.Tree

/-!
Where the text of fragments comes from: texts held in memory under a name made from a path, or
files below a directory.
-/

namespace RouteContract

open Files (Access Reason)

/-- Texts in memory. Each is known by its path with every separator written as a dot, after the
name of the space it lives in. Names are kept in order. -/
structure Embedded where
  space : String := ""
  texts : List (String × String) := []

namespace Embedded

def resourceName (e : Embedded) (path : String) : String :=
  e.space ++ String.ofList (path.toList.map fun c => if c == '/' || c == '\\' then '.' else c)

/-- Adds a text in the order of names, in place of one of the same name. -/
def insert (name text : String) : List (String × String) → List (String × String)
  | [] => [(name, text)]
  | (n, t) :: rest =>
    if name = n then (name, text) :: rest
    else if name < n then (name, text) :: (n, t) :: rest
    else (n, t) :: insert name text rest

def add (e : Embedded) (path text : String) : Embedded :=
  { e with texts := insert (e.resourceName path) text e.texts }

def read (e : Embedded) (path : String) : Except ContractError String :=
  match e.texts.lookup (e.resourceName path) with
  | some text => .ok text
  | none => .error (.resourceNotFound path (e.resourceName path))

def names (e : Embedded) : List String :=
  e.texts.map (·.1)

end Embedded

namespace Directory

variable {m : Type → Type} [Monad m] [Access m]

/-- Reads a file below a directory. -/
def read (root path : String) : m (Except ContractError String) := do
  let full := Files.join root path
  match ← Access.readText full with
  | .ok text => return .ok text
  | .error .missing => return .error (.resourceNotFound path full)
  | .error reason => return .error (.io reason.text)

/-- Whether a file can be a fragment, by its extension. -/
def isResource (path : String) : Bool :=
  match Files.extension? path with
  | some "yaml" | some "yml" | some "json" => true
  | _ => false

/-- The paths of all files below a directory that can be fragments, in order. -/
def names (root : String) : m (List String) := do
  let files ← Access.filesBelow (fun _ => true) root
  return ((files.filter isResource).filterMap (Files.below? root)).mergeSort (fun a b => a ≤ b)

end Directory

end RouteContract
