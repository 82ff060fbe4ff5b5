import Mathlib.Tactic
import RouteContract.Json.Slots

/-!
The references that occur in a JSON value: members named `$ref` whose value is a text, at any depth.
A member of that name with another value is no reference, so a property, a media type or a component
may have the name `$ref` without being one.
-/

namespace RouteContract.Json

/-- Somewhere in the value a member `$ref` has the text as its value. -/
inductive RefersTo : Json → String → Prop where
  | here {members : List (String × Json)} {target : String}
      (h : ("$ref", .str target) ∈ members) : RefersTo (.obj members) target
  | member {members : List (String × Json)} {m : String × Json} {target : String}
      (hmem : m ∈ members) (h : RefersTo m.2 target) : RefersTo (.obj members) target
  | item {items : List Json} {j : Json} {target : String}
      (hmem : j ∈ items) (h : RefersTo j target) : RefersTo (.arr items) target

/-- The members of an object refer to a text, as one of them or inside one of them. -/
def MembersReferTo (members : List (String × Json)) (target : String) : Prop :=
  ("$ref", .str target) ∈ members ∨ ∃ m ∈ members, m.2.RefersTo target

variable {α : Type} {target : String}

@[simp] theorem refersTo_obj {members : List (String × Json)} :
    RefersTo (.obj members) target ↔ MembersReferTo members target := by
  constructor
  · intro h
    cases h with
    | here h => exact Or.inl h
    | member hmem h => exact Or.inr ⟨_, hmem, h⟩
  · rintro (h | ⟨m, hmem, h⟩)
    · exact .here h
    · exact .member hmem h

@[simp] theorem refersTo_arr {items : List Json} :
    RefersTo (.arr items) target ↔ ∃ j ∈ items, j.RefersTo target := by
  constructor
  · intro h
    cases h with
    | item hmem h => exact ⟨_, hmem, h⟩
  · rintro ⟨j, hmem, h⟩
    exact .item hmem h

@[simp] theorem not_refersTo_str {text : String} : ¬ RefersTo (.str text) target := by
  intro h
  cases h

@[simp] theorem not_refersTo_bool {value : Bool} : ¬ RefersTo (.bool value) target := by
  intro h
  cases h

@[simp] theorem not_refersTo_texts {texts : List String} :
    ¬ (Json.texts texts).RefersTo target := by
  simp [Json.texts]

@[simp] theorem membersReferTo_nil : ¬ MembersReferTo [] target := by
  simp [MembersReferTo]

@[simp] theorem membersReferTo_append {first second : List (String × Json)} :
    MembersReferTo (first ++ second) target ↔
      MembersReferTo first target ∨ MembersReferTo second target := by
  simp only [MembersReferTo, List.mem_append, or_and_right, exists_or]
  exact or_or_or_comm

@[simp] theorem membersReferTo_member {name : String} {j : Json} :
    MembersReferTo (member name j) target ↔
      (name = "$ref" ∧ j = .str target) ∨ j.RefersTo target := by
  simp [MembersReferTo, Json.member, eq_comm]

@[simp] theorem membersReferTo_optionalMember {name : String} {encode : α → Json}
    {value : Option α} :
    MembersReferTo (optionalMember name encode value) target ↔
      ∃ v, value = some v ∧ MembersReferTo (member name (encode v)) target := by
  cases value with
  | none => simp [Json.optionalMember]
  | some v =>
      simp only [Option.some.injEq, exists_eq_left']
      exact Iff.rfl

/-- A table whose values are not written as texts refers to what its values refer to. -/
theorem refersTo_ofTable {encode : α → Json} (hencode : ∀ a text, encode a ≠ .str text)
    {t : List (String × α)} :
    (ofTable encode t).RefersTo target ↔ ∃ entry ∈ t, (encode entry.2).RefersTo target := by
  simp [ofTable, MembersReferTo, hencode]

end RouteContract.Json
