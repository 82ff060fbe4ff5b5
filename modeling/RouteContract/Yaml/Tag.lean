import RouteContract.Text.Basic

/-!
Tags of YAML nodes. A tag is the bytes that its text and its percent escapes denote; they need not
be text. A byte of value zero ends each part of a tag.
-/

namespace RouteContract.Yaml

structure Tag where
  bytes : List UInt8
  deriving DecidableEq, Repr, Inhabited

namespace Tag

def ofString (s : String) : Tag := ⟨s.toUTF8.toList⟩

/-- The part of a tag that ends before a byte of value zero. -/
def ofBytes (bytes : List UInt8) : Tag := ⟨bytes.takeWhile (· != 0)⟩

def isEmpty (t : Tag) : Bool := t.bytes.isEmpty

/-- Two parts of a tag one after the other. -/
def append (a b : Tag) : Tag := ⟨a.bytes ++ b.bytes⟩

/-- The tag without its exclamation mark, if it has one. -/
def unmarked? (t : Tag) : Option (List UInt8) :=
  match t.bytes with
  | b :: rest => if b == '!'.toUInt8 then some rest else none
  | [] => none

/-- Tags that begin with an exclamation mark name a type of the application, if they are text. -/
def isLocal (t : Tag) : Bool :=
  t.unmarked?.any fun rest => (String.fromUTF8? ⟨rest.toArray⟩).isSome

/-- A tag of the standard. -/
def standard (name : String) : Tag := ofString ("tag:yaml.org,2002:" ++ name)

/-- The name of a standard tag that a scalar must fit. -/
def scalarName? (t : Tag) : Option String :=
  ["bool", "int", "float", "null"].find? fun name => t == standard name

end Tag

end RouteContract.Yaml
