import RouteContract.Files.Path

/-!
Files in memory. A tree knows its files and directories by the names on the way to them; paths are
resolved from a working directory as an operating system does, so that a missing step, a file used
as a directory and a directory used as a file are told apart.
-/

namespace RouteContract.Files

inductive Entry where
  | directory
  | file (content : ByteArray)

/-- Why an operation on files fails. -/
inductive Reason where
  | missing
  | notDirectory
  | isDirectory
  | notText
  /-- Anything else that a system refuses, in its own words. -/
  | refused (text : String)
  deriving DecidableEq, Repr

def Reason.text : Reason → String
  | missing => "No such file or directory (os error 2)"
  | notDirectory => "Not a directory (os error 20)"
  | isDirectory => "Is a directory (os error 21)"
  | notText => "stream did not contain valid UTF-8"
  | refused text => text

structure Tree where
  entries : List (List String × Entry) := []
  working : List String := []

namespace Tree

/-- The entry at a place; every place on the way to an entry is a directory. -/
def entryAt? (t : Tree) (place : List String) : Option Entry :=
  match t.entries.lookup place with
  | some e => some e
  | none =>
    if place.isEmpty || place.isPrefixOf t.working ||
        t.entries.any (fun (p, _) => place.isPrefixOf p) then some .directory
    else none

/-- The place that a step leads to from a directory. -/
def step (place : List String) : Component → List String
  | .root => []
  | .current => place
  | .parent => place.dropLast
  | .name n => place ++ [n]

/-- Follows components from a place; every place that is left must be a directory. -/
def follow (t : Tree) (place : List String) : List Component → Except Reason (List String)
  | [] => .ok place
  | c :: rest =>
    match t.entryAt? place with
    | none => .error .missing
    | some (.file _) => .error .notDirectory
    | some .directory => t.follow (step place c) rest

/-- A path whose last segment is empty or a dot must lead to a directory. -/
def endsIdle (path : String) : Bool :=
  match (Text.split '/' path).getLast? with
  | some s => s == "" || s == "."
  | none => false

/-- The place and entry that a path leads to. -/
def resolve (t : Tree) (path : String) : Except Reason (List String × Entry) :=
  if path.isEmpty then .error .missing
  else do
    let place ← t.follow t.working (components path)
    match t.entryAt? place with
    | none => .error .missing
    | some (.file content) =>
      if endsIdle path then .error .notDirectory else .ok (place, .file content)
    | some .directory => .ok (place, .directory)

def isDirectory (t : Tree) (path : String) : Bool :=
  match t.resolve path with
  | .ok (_, .directory) => true
  | _ => false

def readText (t : Tree) (path : String) : Except Reason String := do
  match ← t.resolve path with
  | (_, .directory) => .error .isDirectory
  | (_, .file content) =>
    match String.fromUTF8? content with
    | some text => .ok text
    | none => .error .notText

/-- The name of what a path leads to, wherever the path itself goes. -/
def realName? (t : Tree) (path : String) : Option String :=
  match t.resolve path with
  | .ok (place, _) => place.getLast?
  | .error _ => none

/-- The files below a path, each by the path that leads to it. Entries whose name is not wanted
are left out with all that is below them. -/
def filesBelow (t : Tree) (wanted : String → Bool) (path : String) : List String :=
  match t.resolve path with
  | .error _ => []
  | .ok (_, .file _) => [path]
  | .ok (place, .directory) =>
    t.entries.filterMap fun (p, e) =>
      match e with
      | .directory => none
      | .file _ =>
        let names := p.drop place.length
        if place.isPrefixOf p && names.all wanted then some (join path ("/".intercalate names))
        else none

/-- Sets the content of a place. -/
def put (t : Tree) (place : List String) (e : Entry) : Tree :=
  { t with entries := t.entries.filter (fun (p, _) => p != place) ++ [(place, e)] }

/-- Makes the directories on the way along components. -/
def makeAlong (t : Tree) (place : List String) : List Component → Except Reason Tree
  | [] =>
    match t.entryAt? place with
    | some (.file _) => .error .notDirectory
    | some .directory => .ok t
    | none => .ok (t.put place .directory)
  | c :: rest =>
    match t.entryAt? place with
    | some (.file _) => .error .notDirectory
    | some .directory => t.makeAlong (step place c) rest
    | none => (t.put place .directory).makeAlong (step place c) rest

def makeDirectories (t : Tree) (path : String) : Except Reason Tree :=
  t.makeAlong t.working (components path)

def writeText (t : Tree) (path text : String) : Except Reason Tree := do
  if path.isEmpty then .error .missing
  else
    let place ← t.follow t.working (components path)
    match t.entryAt? place with
    | some .directory => .error .isDirectory
    | some (.file _) =>
      if endsIdle path then .error .notDirectory else .ok (t.put place (.file text.toUTF8))
    | none => if endsIdle path then .error .isDirectory else .ok (t.put place (.file text.toUTF8))

end Tree

/-- What a program asks of the files around it. -/
class Access (m : Type → Type) where
  readText : String → m (Except Reason String)
  isDirectory : String → m Bool
  /-- The files below a path, without the entries whose name is not wanted. -/
  filesBelow : (String → Bool) → String → m (List String)
  /-- The name of the file or directory that a path leads to. -/
  realName? : String → m (Option String)
  makeDirectories : String → m (Except Reason Unit)
  writeText : String → String → m (Except Reason Unit)

/-- Runs a change of the tree; a change that fails leaves it as it was. -/
def change (f : Tree → Except Reason Tree) : StateM Tree (Except Reason Unit) := fun t =>
  match f t with
  | .ok t' => (.ok (), t')
  | .error e => (.error e, t)

instance : Access (StateM Tree) where
  readText path := fun t => (t.readText path, t)
  isDirectory path := fun t => (t.isDirectory path, t)
  filesBelow wanted path := fun t => (t.filesBelow wanted path, t)
  realName? path := fun t => (t.realName? path, t)
  makeDirectories path := change (·.makeDirectories path)
  writeText path text := change (·.writeText path text)

end RouteContract.Files
