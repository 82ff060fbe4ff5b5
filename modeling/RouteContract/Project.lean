import RouteContract.Failure
import RouteContract.Files.Tree
import RouteContract.Source.Parse

/-!
The sources of a service: the source files below its directory, read in the order of their paths.
Hidden entries and build output are left out, and a file that cannot be read or does not parse is
dropped with a warning.
-/

namespace RouteContract.Project

open Files (Access)
open Source (SourceFile)

variable {m : Type → Type} [Monad m] [Access m]

/-- Reads one source file. -/
def readSource (path : String) : m (Except Failure SourceFile) := do
  match ← Access.readText path with
  | .error _ => return .error (.unreadable path)
  | .ok text =>
    match Source.parseFile? path text with
    | some file => return .ok file
    | none => return .error (.badSyntax path)

/-- Reads source files; each has an answer of its own. -/
def readSources (paths : List String) : m (List (String × Except Failure SourceFile)) :=
  paths.mapM fun path => do return (path, ← readSource path)

/-- The files that could be read. -/
def parsed (answers : List (String × Except Failure SourceFile)) : List SourceFile :=
  answers.filterMap fun (_, answer) =>
    match answer with
    | .ok file => some file
    | .error _ => none

/-- A warning for every file that could not be read. -/
def warnings (answers : List (String × Except Failure SourceFile)) : List String :=
  answers.filterMap fun (path, answer) =>
    match answer with
    | .ok _ => none
    | .error failure => some ("Failed to parse " ++ path ++ ": " ++ failure.message)

/-- Whether an entry of a directory belongs to the sources. -/
def isWanted (name : String) : Bool :=
  name.toList.head? != some '.' && name != "target"

def isSource (path : String) : Bool := Files.extension? path == some "rs"

/-- The paths of all source files below a directory, in order. -/
def discover (root : String) : m (Except Failure (List String)) := do
  if ← Access.isDirectory root then
    let files ← Access.filesBelow isWanted root
    return .ok ((files.filter isSource).mergeSort Files.pathLe)
  else return .error (.notDirectory root)

/-- Reads all source files below a directory. -/
def read (root : String) : m (Except Failure (List (String × Except Failure SourceFile))) := do
  match ← discover root with
  | .error failure => return .error failure
  | .ok paths => return .ok (← readSources paths)

/-- The title of a project: the name of its directory in words. -/
def title (root : String) : m String := do
  match ← Access.realName? root with
  | some name =>
    return String.ofList (name.toList.map fun c =>
      if c == '-' || c == '_' || c == '.' then ' ' else c)
  | none => return "API"

end RouteContract.Project
