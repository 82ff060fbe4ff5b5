import RouteContract.Failure
import RouteContract.Files.Tree

/-!
Writing a text to a file, making the directories on the way to it.
-/

namespace RouteContract.Output

open Files (Access)

variable {m : Type → Type} [Monad m] [Access m]

/-- Makes the directory that a file is to be in. A file with no directory in its path needs none. -/
def makeParent (path : String) : m (Except Failure Unit) :=
  match (Files.parent? path).filter (!·.isEmpty) with
  | none => return .ok ()
  | some parent => do
    match ← Access.makeDirectories parent with
    | .ok () => return .ok ()
    | .error _ => return .error (.directoryNotMade parent)

def write (path text : String) : m (Except Failure Unit) := do
  match ← makeParent path with
  | .error failure => return .error failure
  | .ok () =>
    match ← Access.writeText path text with
    | .ok () => return .ok ()
    | .error _ => return .error (.notWritten path)

end RouteContract.Output
