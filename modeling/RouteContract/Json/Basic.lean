import RouteContract.Decimal.Binary64

/-!
JSON values. An object is the list of its members in the order in which they were first set, and
its names are distinct for every value that the readers build. Two values are the same if they
differ in the order of members only.
-/

namespace RouteContract

open Decimal (Binary64)

/-- A JSON number: an integer that fits 64 bits, or a finite floating-point number. -/
inductive Number where
  | int (value : Int)
  | float (value : Binary64)
  deriving DecidableEq, Repr, Inhabited

/-- Equality of values; an integer differs from a floating-point number of equal value. -/
def Number.same : Number → Number → Bool
  | .int a, .int b => a == b
  | .float a, .float b => a.same b
  | _, _ => false

inductive Json where
  | null
  | bool (value : Bool)
  | num (value : Number)
  | str (value : String)
  | arr (items : List Json)
  | obj (members : List (String × Json))
  deriving Repr, Inhabited

namespace Json

/-- Sets a member: an existing name keeps its place and takes the new value. -/
def setMember {α : Type} (name : String) (value : α) : List (String × α) → List (String × α)
  | [] => [(name, value)]
  | (n, v) :: rest => if n = name then (n, value) :: rest else (n, v) :: setMember name value rest

/-- Sets members one after the other. -/
def setMembers {α : Type} (members : List (String × α)) (new : List (String × α)) :
    List (String × α) :=
  new.foldl (fun acc m => setMember m.1 m.2 acc) members

/-- The value of a member of an object. -/
def get? : Json → String → Option Json
  | .obj members, name => members.lookup name
  | _, _ => none

def asObject? : Json → Option (List (String × Json))
  | .obj members => some members
  | _ => none

def asArray? : Json → Option (List Json)
  | .arr items => some items
  | _ => none

def asText? : Json → Option String
  | .str s => some s
  | _ => none

def isObject : Json → Bool
  | .obj _ => true
  | _ => false

mutual

/-- Equality that ignores the order of members. -/
def same : Json → Json → Bool
  | .null, .null => true
  | .bool a, .bool b => a == b
  | .num a, .num b => a.same b
  | .str a, .str b => a == b
  | .arr as, .arr bs => sameItems as bs
  | .obj as, .obj bs => as.length == bs.length && sameMembers as bs
  | _, _ => false

def sameItems : List Json → List Json → Bool
  | [], [] => true
  | a :: as, b :: bs => same a b && sameItems as bs
  | _, _ => false

/-- Whether each of the first members stands among the second with the same value. -/
def sameMembers : List (String × Json) → List (String × Json) → Bool
  | [], _ => true
  | (name, a) :: as, bs =>
    (match bs.lookup name with
      | some b => same a b
      | none => false) && sameMembers as bs

end

end Json

end RouteContract
