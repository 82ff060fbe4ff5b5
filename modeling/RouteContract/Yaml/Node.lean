import RouteContract.Json.Distinct
import RouteContract.Outline
import RouteContract.Yaml.Event
import RouteContract.Yaml.Scalar

/-!
YAML nodes: a document as a tree in which every alias is replaced by the node it names, as far as
an outline leads. Nesting is bounded, and so is the number of aliases that are followed, so that
reading ends also where an anchor stands around its own alias.
-/

namespace RouteContract.Yaml

inductive Node where
  | scalar (tag : Option Tag) (text : String) (plain : Bool)
  | sequence (tag : Option Tag) (items : List Node)
  | mapping (tag : Option Tag) (members : List (Node × Node))
  deriving Repr, Inhabited

/-- The name of a member: the text of a scalar, whatever it would mean as a value. -/
def Node.keyText? : Node → Option String
  | .scalar _ text _ => some text
  | _ => none

/-- Where the anchors of a document stand. An anchor is known by the number of names in use when
it was set; the names and the places are kept apart. -/
structure Anchors where
  names : List (String × Nat) := []
  places : List (Nat × Nat) := []

def Anchors.set (a : Anchors) (name : Option String) (place : Nat) : Anchors :=
  match name with
  | none => a
  | some name =>
    let id := a.names.length
    let names := if (a.names.lookup name).isSome then
        a.names.map fun (n, i) => if n == name then (n, id) else (n, i)
      else (name, id) :: a.names
    ⟨names, (id, place) :: a.places⟩

/-- An event with aliases resolved to the number of their anchor. -/
inductive Linked where
  | alias (id : Nat)
  | event (e : Event)
  deriving Inhabited

/-- Resolves the names of aliases; none if a name has no anchor before it. -/
def link : List Event → Nat → Anchors → List Linked → Option (List Linked × Anchors)
  | [], _, anchors, acc => some (acc.reverse, anchors)
  | e :: rest, place, anchors, acc =>
    match e with
    | .alias name => do
      let id ← anchors.names.lookup name
      link rest (place + 1) anchors (.alias id :: acc)
    | .scalar anchor .. | .sequenceStart anchor _ | .mappingStart anchor _ =>
      link rest (place + 1) (anchors.set anchor place) (.event e :: acc)
    | _ => link rest (place + 1) anchors (.event e :: acc)

/-- The events of a document, and where its anchors stand. -/
structure Document where
  events : Array Linked
  places : List (Nat × Nat)

namespace Document

/-- What a reader of nodes gives: the node, the place after it, and the aliases followed. -/
abbrev Found := Node × Nat × Nat

/-- The place of the node to read at `place`, following an alias. -/
def follow? (d : Document) (place jumps : Nat) : Option (Nat × Nat) :=
  match d.events[place]? with
  | some (.alias id) =>
    if d.events.size * 100 < jumps + 1 then none
    else (d.places.lookup id).map (·, jumps + 1)
  | some _ => some (place, jumps)
  | none => none

/-- The place after the node at a place, with so many collections open; aliases are not followed.
The fuel bounds the number of events. -/
def skip (d : Document) : Nat → Nat → Nat → Option Nat
  | 0, _, _ => none
  | fuel + 1, opened, place => do
    let opened ← match ← d.events[place]? with
      | .event (.sequenceStart ..) | .event (.mappingStart ..) => some (opened + 1)
      | .event .sequenceEnd | .event .mappingEnd => some (opened - 1)
      | _ => some opened
    if opened = 0 then some (place + 1) else d.skip fuel opened (place + 1)

/-- The place after the node at a place. -/
def after? (d : Document) (place : Nat) : Option Nat :=
  d.skip (d.events.size + 1) 0 place

variable {σ : Type}

/-- How to read the node that a state, a place and the aliases followed so far give. -/
abbrev Read (σ : Type) := σ → Nat → Nat → Option Found

/-- Nodes up to the end of a sequence, of which the first `position` have been met. -/
def items (d : Document) (o : Outline σ) (read : Read σ) (state : σ) :
    Nat → Nat → Nat → Nat → List Node → Option (List Node × Nat × Nat)
  | 0, _, _, _, _ => none
  | fuel + 1, position, place, jumps, acc =>
    match d.events[place]? with
    | some (.event .sequenceEnd) => some (acc.reverse, place + 1, jumps)
    | _ =>
      match o.item state position with
      | some inner => do
        let (node, place, jumps) ← read inner place jumps
        items d o read state fuel (position + 1) place jumps (node :: acc)
      | none => do
        items d o read state fuel (position + 1) (← d.after? place) jumps acc

/-- Pairs of nodes up to the end of a mapping. A key that is no scalar has no name to look for. -/
def members (d : Document) (o : Outline σ) (read : Read σ) (state : σ) :
    Nat → Nat → Nat → List (Node × Node) → Option (List (Node × Node) × Nat × Nat)
  | 0, _, _, _ => none
  | fuel + 1, place, jumps, acc =>
    match d.events[place]? with
    | some (.event .mappingEnd) => some (acc.reverse, place + 1, jumps)
    | _ => do
      let (key, place, jumps) ← read state place jumps
      match o.member state (← key.keyText?) with
      | some inner =>
        let (value, place, jumps) ← read inner place jumps
        members d o read state fuel place jumps ((key, value) :: acc)
      | none => members d o read state fuel (← d.after? place) jumps acc

/-- The node at a place, read along an outline from a state on, with collections nested at most
`depth` deep. -/
def node (d : Document) (o : Outline σ) : Nat → Read σ
  | depth, state, place, jumps => do
    let (target, jumps) ← d.follow? place jumps
    let fuel := d.events.size + 1
    let (node, next, jumps) ← match d.events[target]?, depth with
      | some (.event (.scalar _ tag text plain)), _ =>
        some (Node.scalar tag text plain, target + 1, jumps)
      | some (.event (.sequenceStart _ tag)), depth + 1 => do
        let (xs, next, jumps) ←
          d.items o (fun s p j => node d o depth s p j) state fuel 0 (target + 1) jumps []
        some (Node.sequence tag xs, next, jumps)
      | some (.event (.mappingStart _ tag)), depth + 1 => do
        let (ms, next, jumps) ←
          d.members o (fun s p j => node d o depth s p j) state fuel (target + 1) jumps []
        some (Node.mapping tag ms, next, jumps)
      | _, _ => none
    some (node, if target == place then next else place + 1, jumps)

end Document

/-- The deepest nesting of collections that is read. -/
def nestingLimit : Nat := 128

/-- The node of text that holds one document, read along an outline; text without any document is
an empty scalar. -/
def parseAlong? {σ : Type} (o : Outline σ) (start : σ) (s : String) : Option Node := do
  let events ← events? s
  if events.isEmpty then some (.scalar none "" true)
  else
    let (linked, anchors) ← link events.toList 0 {} []
    let document : Document := ⟨linked.toArray, anchors.places⟩
    (document.node o nestingLimit start 0 0).map (·.1)

/-- The node of text that holds one document. -/
def parse? (s : String) : Option Node :=
  parseAlong? .whole () s

/-- The meaning of a scalar node; none if its text does not fit its tag. -/
def scalarValue? (tag : Option Tag) (text : String) (plain : Bool) : Option Scalar :=
  match tag with
  | some tag =>
    match tag.scalarName? with
    | some name => Scalar.ofTagged? name text
    | none => some (if plain && tag.unmarked?.isSome then .ofPlain text else .text text)
  | none => some (if plain then .ofPlain text else .text text)

/-- A scalar as a JSON value; numbers that JSON does not have become null, and integers beyond 64
bits have no value. -/
def Scalar.toJson? : Scalar → Option Json
  | .null => some .null
  | .bool b => some (.bool b)
  | .int i => some (.num (.int i))
  | .wideInt => none
  | .float x => some (.num (.float x))
  | .infinite => some .null
  | .notANumber => some .null
  | .text s => some (.str s)

/-- Whether a tag names a type of the application. -/
def isLocal (tag : Option Tag) : Bool :=
  tag.any Tag.isLocal

mutual

/-- The JSON value of a node. Tags of the application have none. -/
def Node.toJson? : Node → Option Json
  | .scalar tag text plain =>
    if isLocal tag then none else (scalarValue? tag text plain).bind Scalar.toJson?
  | .sequence tag items => if isLocal tag then none else (jsonItems? items).map .arr
  | .mapping tag members => if isLocal tag then none else (jsonMembers? members []).map .obj

def jsonItems? : List Node → Option (List Json)
  | [] => some []
  | n :: rest => do
    let j ← n.toJson?
    let js ← jsonItems? rest
    some (j :: js)

/-- Members in order; a repeated name keeps its first place and its last value. -/
def jsonMembers? : List (Node × Node) → List (String × Json) → Option (List (String × Json))
  | [], acc => some acc
  | (key, value) :: rest, acc => do
    let name ← key.keyText?
    let j ← value.toJson?
    jsonMembers? rest (Json.setMember name j acc)

end

theorem Scalar.hasDistinctNames_of_toJson? {x : Scalar} {j : Json} (h : x.toJson? = some j) :
    j.hasDistinctNames := by
  cases x <;> cases h <;> rfl

mutual

/-- The value of a node has distinct names, since its members are set one after the other. -/
theorem Node.hasDistinctNames_of_toJson? :
    ∀ (n : Node) {j : Json}, n.toJson? = some j → j.hasDistinctNames
  | .scalar tag text plain, j, h => by
    rw [Node.toJson?] at h
    split at h
    · cases h
    · obtain ⟨x, -, hx⟩ := Option.bind_eq_some_iff.mp h
      exact Scalar.hasDistinctNames_of_toJson? hx
  | .sequence tag items, j, h => by
    rw [Node.toJson?] at h
    split at h
    · cases h
    · obtain ⟨js, hjs, rfl⟩ := Option.map_eq_some_iff.mp h
      exact (Json.hasDistinctNames_arr js).mpr (hasDistinctNames_of_jsonItems? items hjs)
  | .mapping tag members, j, h => by
    rw [Node.toJson?] at h
    split at h
    · cases h
    · obtain ⟨ms, hms, rfl⟩ := Option.map_eq_some_iff.mp h
      exact hasDistinctNames_of_jsonMembers? members (by simp) hms

theorem hasDistinctNames_of_jsonItems? :
    ∀ (ns : List Node) {js : List Json}, jsonItems? ns = some js → ∀ j ∈ js, j.hasDistinctNames
  | [], js, h => by
    cases h
    simp
  | n :: rest, js, h => by
    rw [jsonItems?] at h
    obtain ⟨first, hfirst, h⟩ := Option.bind_eq_some_iff.mp h
    obtain ⟨others, hothers, h⟩ := Option.bind_eq_some_iff.mp h
    cases h
    rw [List.forall_mem_cons]
    exact ⟨n.hasDistinctNames_of_toJson? hfirst, hasDistinctNames_of_jsonItems? rest hothers⟩

theorem hasDistinctNames_of_jsonMembers? :
    ∀ (ms : List (Node × Node)) {acc out : List (String × Json)},
      (Json.obj acc).hasDistinctNames → jsonMembers? ms acc = some out →
      (Json.obj out).hasDistinctNames
  | [], acc, out, hacc, h => by
    cases h
    exact hacc
  | (key, value) :: rest, acc, out, hacc, h => by
    rw [jsonMembers?] at h
    obtain ⟨name, -, h⟩ := Option.bind_eq_some_iff.mp h
    obtain ⟨j, hj, h⟩ := Option.bind_eq_some_iff.mp h
    exact hasDistinctNames_of_jsonMembers? rest
      (Json.hasDistinctNames_setMember hacc (value.hasDistinctNames_of_toJson? hj)) h

end

/-- Reads YAML text as a JSON value. -/
def parseJson? (s : String) : Option Json :=
  (parse? s).bind Node.toJson?

theorem hasDistinctNames_of_parseJson? {s : String} {j : Json} (h : parseJson? s = some j) :
    j.hasDistinctNames := by
  obtain ⟨n, -, hn⟩ := Option.bind_eq_some_iff.mp h
  exact n.hasDistinctNames_of_toJson? hn

end RouteContract.Yaml
