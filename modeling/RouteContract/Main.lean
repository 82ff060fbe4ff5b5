import RouteContract.CommandLine.Run

/-!
The program: runs the command that its arguments ask for over the files of the system.
-/

namespace RouteContract.Program

open Files (Access Reason)

/-- The reason for an error of the system. -/
def reasonOf : IO.Error → Reason
  | .noFileOrDirectory .. => .missing
  | .inappropriateType _ _ details => .refused details
  | e => .refused (toString e)

/-- Runs an action and tells why it fails. -/
def attempt {α : Type} (action : IO α) : IO (Except Reason α) := do
  try
    return .ok (← action)
  catch e =>
    return .error (reasonOf e)

/-- Runs a test that is false if it fails. -/
def holds (test : IO Bool) : IO Bool := do
  try
    test
  catch _ =>
    return false

def isDirectory (path : String) : IO Bool :=
  holds do
    let real ← IO.FS.realPath path
    real.isDir

def readText (path : String) : IO (Except Reason String) := do
  match ← attempt (IO.FS.readBinFile path) with
  | .error reason => return .error reason
  | .ok bytes =>
    match String.fromUTF8? bytes with
    | some text => return .ok text
    | none => return .error .notText

/-- The files below a path. -/
partial def filesBelow (wanted : String → Bool) (path : String) : IO (List String) := do
  if ← isDirectory path then
    let real ← IO.FS.realPath path
    let entries ← real.readDir
    let names := (entries.toList.map (·.fileName)).filter wanted
    let below ← names.mapM fun name => filesBelow wanted (Files.join path name)
    return below.flatten
  else return [path]

def realName? (path : String) : IO (Option String) := do
  match ← attempt (IO.FS.realPath path) with
  | .ok real => return real.fileName
  | .error _ => return none

instance : Access IO where
  readText := readText
  isDirectory := isDirectory
  filesBelow := filesBelow
  realName? := realName?
  makeDirectories path := attempt (IO.FS.createDirAll path)
  writeText path text := attempt (IO.FS.writeFile path text)

end RouteContract.Program

def main (words : List String) : IO UInt32 := do
  let exit ← RouteContract.CommandLine.runWords (m := IO) words
  IO.print exit.output
  exit.notes.forM IO.eprintln
  return exit.status.toUInt32
