import RouteContract.Json.Basic
import RouteContract.Table

/-!
Reading records from JSON. A record is an object with named members, of which unknown ones are
ignored and known ones may not be repeated, or an array of its members in order.
-/

namespace RouteContract.Json

/-- What a JSON value gives for a member of a record. -/
inductive Slot where
  | absent
  /-- The array ends before the member. -/
  | short
  | given (j : Json)

/-- The members of a record by their names. -/
def slots? (names : List String) : Json → Option (List Slot)
  | .obj members => names.mapM fun name =>
    match members.filter (·.1 == name) with
    | [] => some .absent
    | [(_, j)] => some (.given j)
    | _ => none
  | .arr items =>
    if items.length ≤ names.length then
      some (items.map .given ++ List.replicate (names.length - items.length) .short)
    else none
  | _ => none

namespace Slot

/-- A member that must be there. -/
def required? {α : Type} (decode : Json → Option α) : Slot → Option α
  | given j => decode j
  | _ => none

/-- A member that may be left out of an object, or be null. -/
def optional? {α : Type} (decode : Json → Option α) : Slot → Option (Option α)
  | given .null => some none
  | given j => (decode j).map some
  | absent => some none
  | short => none

/-- A member with a default. -/
def defaulted? {α : Type} (default : α) (decode : Json → Option α) : Slot → Option α
  | given j => decode j
  | _ => some default

end Slot

def asBool? : Json → Option Bool
  | .bool b => some b
  | _ => none

def list? {α : Type} (decode : Json → Option α) : Json → Option (List α)
  | .arr items => items.mapM decode
  | _ => none

/-- The members of an object in order, each decoded. -/
def entries? {α : Type} (decode : Json → Option α) : Json → Option (List (String × α))
  | .obj members => members.mapM fun (name, j) => (decode j).map (name, ·)
  | _ => none

mutual

/-- How deep a value is nested. -/
def depth : Json → Nat
  | .arr items => itemsDepth items + 1
  | .obj members => membersDepth members + 1
  | _ => 1

def itemsDepth : List Json → Nat
  | [] => 0
  | j :: js => max j.depth (itemsDepth js)

def membersDepth : List (String × Json) → Nat
  | [] => 0
  | (_, j) :: ms => max j.depth (membersDepth ms)

end

/-- A member that is always written. -/
def member (name : String) (j : Json) : List (String × Json) := [(name, j)]

/-- A member that is written if it is there. -/
def optionalMember {α : Type} (name : String) (encode : α → Json) : Option α → List (String × Json)
  | some a => [(name, encode a)]
  | none => []

def texts (xs : List String) : Json := .arr (xs.map .str)

/-- A table as an object. -/
def ofTable {α : Type} (encode : α → Json) (t : List (String × α)) : Json :=
  .obj (t.map fun (name, a) => (name, encode a))

end RouteContract.Json
