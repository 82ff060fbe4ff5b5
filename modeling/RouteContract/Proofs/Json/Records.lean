import Mathlib.Tactic
import RouteContract.Json.Slots
import RouteContract.Proofs.Table

/-!
Reading back what has been written. A reader and a writer of a type belong together if the reader
gives back every value that has been written. Lists and objects of such a type have this from their
members. A record is an object whose names are distinct, and reading it finds each member under its
name.
-/

namespace RouteContract.Json

variable {α : Type} {encode : α → Json} {decode : Json → Option α}

/-- A reader gives back whatever the writer writes. -/
def Codec (encode : α → Json) (decode : Json → Option α) : Prop :=
  ∀ a, decode (encode a) = some a

theorem mapM_eq_some_map {β : Type} {f : α → Option β} {g : α → β} {xs : List α}
    (h : ∀ x ∈ xs, f x = some (g x)) : xs.mapM f = some (xs.map g) := by
  induction xs with
  | nil => rfl
  | cons x xs ih =>
      rw [List.forall_mem_cons] at h
      rw [List.mapM_cons, h.1, ih h.2]
      rfl

theorem entries?_ofTable {entries : List (String × α)}
    (h : ∀ entry ∈ entries, decode (encode entry.2) = some entry.2) :
    entries? decode (ofTable encode entries) = some entries := by
  have hread : (entries.map fun entry => (entry.1, encode entry.2)).mapM
      (fun member => (decode member.2).map (member.1, ·)) = some (entries.map id) := by
    rw [List.mapM_map]
    refine mapM_eq_some_map fun entry hentry => ?_
    rw [Function.comp_apply, h entry hentry]
    rfl
  rw [List.map_id] at hread
  exact hread

namespace Codec

theorem list (c : Codec encode decode) :
    Codec (fun xs => .arr (xs.map encode)) (list? decode) := by
  intro xs
  have hread : (xs.map encode).mapM decode = some (xs.map id) := by
    rw [List.mapM_map]
    exact mapM_eq_some_map fun x _ => c x
  rw [list?, hread, List.map_id]

theorem texts : Codec texts (list? asText?) :=
  list fun _ => rfl

theorem entries (c : Codec encode decode) : Codec (ofTable encode) (entries? decode) :=
  fun _ => entries?_ofTable fun entry _ => c entry.2

end Codec

namespace Slot

/-- The slot of a member of an object. -/
def ofOption : Option Json → Slot
  | none => .absent
  | some j => .given j

theorem required?_ofOption (j : Json) : required? decode (ofOption (some j)) = decode j := rfl

theorem optional?_given {j : Json} {a : α} (hnull : j ≠ .null) (h : decode j = some a) :
    optional? decode (ofOption (some j)) = some (some a) := by
  rw [ofOption, optional?, h]
  · rfl
  · exact hnull

/-- A member that is written if it is there is read as it was, unless its value is written as
null. -/
theorem optional?_ofOption (hnull : ∀ a, encode a ≠ .null) {value : Option α}
    (h : ∀ a ∈ value, decode (encode a) = some a) :
    optional? decode (ofOption (value.map encode)) = some value := by
  cases value with
  | none => rfl
  | some a => exact optional?_given (hnull a) (h a rfl)

end Slot

theorem filter_eq_of_nodup {members : List (String × Json)} (h : (members.map (·.1)).Nodup)
    (name : String) :
    members.filter (·.1 == name) = ((members.lookup name).map (name, ·)).toList := by
  induction members with
  | nil => rfl
  | cons m rest ih =>
      rw [List.map_cons, List.nodup_cons] at h
      rw [Table.lookup_cons, List.filter_cons, ih h.2]
      by_cases hname : name = m.1
      · have habsent : rest.lookup name = none := Table.lookup_eq_none_iff.mpr (hname ▸ h.1)
        simp [hname, hname ▸ habsent]
      · simp [hname, Ne.symm hname]

/-- The members of an object with distinct names are found under their names. -/
theorem slots?_obj {members : List (String × Json)} (h : (members.map (·.1)).Nodup)
    (names : List String) :
    slots? names (.obj members) =
      some (names.map fun name => Slot.ofOption (members.lookup name)) := by
  refine mapM_eq_some_map fun name _ => ?_
  rw [filter_eq_of_nodup h]
  cases members.lookup name <;> rfl

/-- The names of members are among the given ones, in their order and each at most once. -/
def NamedBy (names : List String) (members : List (String × Json)) : Prop :=
  (members.map (·.1)).Sublist names

theorem namedBy_member (name : String) (j : Json) : NamedBy [name] (member name j) :=
  List.Sublist.refl _

theorem namedBy_optionalMember (name : String) (encode : α → Json) (value : Option α) :
    NamedBy [name] (optionalMember name encode value) := by
  cases value with
  | none => exact List.nil_sublist _
  | some a => exact List.Sublist.refl _

theorem NamedBy.append {names names' : List String} {members members' : List (String × Json)}
    (h : NamedBy names members) (h' : NamedBy names' members') :
    NamedBy (names ++ names') (members ++ members') := by
  rw [NamedBy, List.map_append]
  exact List.Sublist.append h h'

theorem slots?_of_namedBy {names : List String} (hnames : names.Nodup)
    {members : List (String × Json)} (h : NamedBy names members) :
    slots? names (.obj members) =
      some (names.map fun name => Slot.ofOption (members.lookup name)) :=
  slots?_obj (hnames.sublist h) names

end RouteContract.Json
