import RouteContract.Text.Basic

/-!
Paths as text. A path is a sequence of components between slashes; empty components and dots
say nothing, except for a dot at the start of a relative path.
-/

namespace RouteContract.Files

/-- A step of a path. The order of the constructors is the order of paths. -/
inductive Component where
  | root
  | current
  | parent
  | name (text : String)
  deriving DecidableEq, Repr

def Component.ofSegment (segment : String) : Component :=
  if segment == ".." then .parent else .name segment

/-- The components of a path. -/
def components (path : String) : List Component :=
  let segments := Text.split '/' path
  let lead := match segments with
    | "" :: _ :: _ => [Component.root]
    | "." :: _ => [Component.current]
    | _ => []
  lead ++ (segments.filter fun s => s != "" && s != ".").map Component.ofSegment

def Component.rank : Component → Nat
  | .root => 0
  | .current => 1
  | .parent => 2
  | .name _ => 3

def Component.text : Component → String
  | .name text => text
  | _ => ""

/-- The order of components: by kind, then by name. -/
def Component.le (a b : Component) : Bool :=
  a.rank < b.rank || (a.rank == b.rank && a.text ≤ b.text)

/-- The order of component lists, the shorter of two comparable ones first. -/
def componentsLe : List Component → List Component → Bool
  | [], _ => true
  | _ :: _, [] => false
  | a :: as, b :: bs => if a = b then componentsLe as bs else a.le b

/-- The order of paths, component by component. -/
def pathLe (a b : String) : Bool :=
  componentsLe (components a) (components b)

/-- A path below another one; an absolute path stands for itself. -/
def join (base path : String) : String :=
  if path.toList.head? == some '/' || base.isEmpty then path
  else if base.toList.getLast? == some '/' then base ++ path
  else base ++ "/" ++ path

/-- Segments without those at the end that say nothing; the first one always says something. -/
def dropIdle : List String → List String
  | [] => []
  | [s] => [s]
  | s :: rest =>
    match dropIdle rest with
    | [t] => if t == "" || t == "." then [s] else [s, t]
    | ts => s :: ts

/-- The name of the last component, if that is a name. -/
def fileName? (path : String) : Option String :=
  match (components path).getLast? with
  | some (.name text) => some text
  | _ => none

/-- The path without its last component; the root and the empty path have none. -/
def parent? (path : String) : Option String :=
  match (components path).getLast? with
  | none | some .root => none
  | some _ =>
    match dropIdle (dropIdle (Text.split '/' path)).dropLast with
    | [""] => some "/"
    | segments => some ("/".intercalate segments)

/-- A file name cut at its last dot, which is not its first character. -/
def cutName (name : String) : String × Option String :=
  match (name.toList.reverse.span fun c => c != '.') with
  | (_, []) | (_, [_]) => (name, none)
  | (tail, _ :: stem) => (String.ofList stem.reverse, some (String.ofList tail.reverse))

/-- The file name without its extension. -/
def fileStem? (path : String) : Option String :=
  (fileName? path).map fun n => if n == ".." then n else (cutName n).1

def extension? (path : String) : Option String :=
  (fileName? path).bind fun n => (cutName n).2

def isIdle (segment : String) : Bool :=
  segment == "" || segment == "."

/-- The segments after the first `n` components of a path given by its segments. -/
def dropComponents : Nat → List String → List String
  | 0, segments => segments
  | n + 1, segments =>
    match segments.dropWhile isIdle with
    | [] => []
    | _ :: rest => (dropComponents n rest).dropWhile isIdle

/-- What is left of a path below another one, as it is written. -/
def below? (base path : String) : Option String :=
  let outer := components base
  if outer.isPrefixOf (components path) then
    let segments := Text.split '/' path
    let leading := match outer with
      | .root :: _ | .current :: _ => true
      | _ => false
    let rest :=
      if leading then (dropComponents (outer.length - 1) segments.tail).dropWhile isIdle
      else dropComponents outer.length segments
    some (match dropIdle rest with
      | [""] => if path.isEmpty then "" else "/"
      | kept => "/".intercalate kept)
  else none

end RouteContract.Files
