import RouteContract.Json.Basic
import RouteContract.Table

/-!
Values in which no object has a name twice. Setting a member keeps the names of an object distinct,
so every value that is built member by member is one of them.
-/

namespace RouteContract.Json

/-- Induction over a value: what holds of all items of an array holds of the array, and what holds
of the values of all members of an object holds of the object. -/
@[elab_as_elim]
theorem inductionOn {motive : Json → Prop} (j : Json) (null : motive .null)
    (bool : ∀ b, motive (.bool b)) (num : ∀ n, motive (.num n)) (str : ∀ s, motive (.str s))
    (arr : ∀ items, (∀ j ∈ items, motive j) → motive (.arr items))
    (obj : ∀ members, (∀ m ∈ members, motive m.2) → motive (.obj members)) : motive j :=
  @Json.rec motive (fun items => ∀ j ∈ items, motive j)
    (fun members => ∀ m ∈ members, motive m.2) (fun m => motive m.2)
    null bool num str arr obj
    (fun _ hj => absurd hj List.not_mem_nil)
    (fun _ _ hhead htail => List.forall_mem_cons.mpr ⟨hhead, htail⟩)
    (fun _ hm => absurd hm List.not_mem_nil)
    (fun _ _ hhead htail => List.forall_mem_cons.mpr ⟨hhead, htail⟩)
    (fun _ _ hvalue => hvalue) j

mutual

/-- Whether the names of every object in a value are distinct. -/
def hasDistinctNames : Json → Bool
  | .arr items => itemsDistinct items
  | .obj members => decide (members.map (·.1)).Nodup && membersDistinct members
  | _ => true

def itemsDistinct : List Json → Bool
  | [] => true
  | j :: js => j.hasDistinctNames && itemsDistinct js

def membersDistinct : List (String × Json) → Bool
  | [] => true
  | (_, j) :: ms => j.hasDistinctNames && membersDistinct ms

end

@[simp]
theorem itemsDistinct_iff (items : List Json) :
    itemsDistinct items ↔ ∀ j ∈ items, j.hasDistinctNames := by
  induction items with
  | nil => simp [itemsDistinct]
  | cons j js ih => simp [itemsDistinct, ih]

@[simp]
theorem membersDistinct_iff (members : List (String × Json)) :
    membersDistinct members ↔ ∀ m ∈ members, m.2.hasDistinctNames := by
  induction members with
  | nil => simp [membersDistinct]
  | cons m ms ih => simp [membersDistinct, ih]

@[simp]
theorem hasDistinctNames_arr (items : List Json) :
    (Json.arr items).hasDistinctNames ↔ ∀ j ∈ items, j.hasDistinctNames := by
  rw [hasDistinctNames, itemsDistinct_iff]

@[simp]
theorem hasDistinctNames_obj (members : List (String × Json)) :
    (Json.obj members).hasDistinctNames ↔
      (members.map (·.1)).Nodup ∧ ∀ m ∈ members, m.2.hasDistinctNames := by
  rw [hasDistinctNames, Bool.and_eq_true, decide_eq_true_iff, membersDistinct_iff]

variable {α : Type}

theorem mem_setMember {name : String} {value : α} {m : String × α} {members : List (String × α)}
    (h : m ∈ setMember name value members) : m = (name, value) ∨ m ∈ members := by
  induction members with
  | nil => simpa [setMember] using h
  | cons head rest ih =>
    rw [setMember] at h
    split at h
    · next same => rcases List.mem_cons.mp h with rfl | h <;> simp_all
    · rcases List.mem_cons.mp h with rfl | h
      · simp
      · rcases ih h with rfl | h <;> simp_all

/-- Setting a member gives its own name the new value and leaves all others. -/
theorem lookup_setMember (name other : String) (value : α) (members : List (String × α)) :
    (setMember name value members).lookup other =
      if other = name then some value else members.lookup other := by
  induction members with
  | nil => simp [setMember, Table.lookup_cons]
  | cons head rest ih =>
    rw [setMember]
    by_cases same : head.1 = name
    · rw [if_pos same, Table.lookup_cons, Table.lookup_cons, same]
      split <;> rfl
    · rw [if_neg same, Table.lookup_cons, Table.lookup_cons, ih]
      by_cases found : other = head.1
      · rw [if_pos found, if_pos found, if_neg (found ▸ same)]
      · rw [if_neg found, if_neg found]

/-- Setting a member of a new name adds the name at the end. -/
theorem map_fst_setMember (name : String) (value : α) (members : List (String × α)) :
    (setMember name value members).map (·.1) =
      if name ∈ members.map (·.1) then members.map (·.1) else members.map (·.1) ++ [name] := by
  induction members with
  | nil => simp [setMember]
  | cons head rest ih =>
    rw [setMember]
    by_cases same : head.1 = name
    · simp [same]
    · rw [if_neg same, List.map_cons, List.map_cons, ih]
      by_cases later : name ∈ rest.map (·.1)
      · rw [if_pos later, if_pos (List.mem_cons_of_mem _ later)]
      · have absent : name ∉ head.1 :: rest.map (·.1) := by
          rw [List.mem_cons, not_or]
          exact ⟨Ne.symm same, later⟩
        rw [if_neg later, if_neg absent, List.cons_append]

theorem nodup_setMember {name : String} {value : α} {members : List (String × α)}
    (h : (members.map (·.1)).Nodup) : ((setMember name value members).map (·.1)).Nodup := by
  rw [map_fst_setMember]
  split
  · exact h
  · next absent =>
    rw [List.nodup_append]
    exact ⟨h, by simp, fun a ha b hb => by rintro rfl; simp_all⟩

theorem mem_setMembers {members new : List (String × α)} {m : String × α}
    (h : m ∈ setMembers members new) : m ∈ members ∨ m ∈ new := by
  induction new generalizing members with
  | nil => exact Or.inl h
  | cons head rest ih =>
    rcases ih h with mem | mem
    · rcases mem_setMember mem with rfl | mem
      · exact Or.inr List.mem_cons_self
      · exact Or.inl mem
    · exact Or.inr (List.mem_cons_of_mem _ mem)

theorem nodup_setMembers {members : List (String × α)} (h : (members.map (·.1)).Nodup)
    (new : List (String × α)) : ((setMembers members new).map (·.1)).Nodup := by
  induction new generalizing members with
  | nil => exact h
  | cons m rest ih => exact ih (nodup_setMember h)

/-- Setting a member to a value with distinct names leaves an object with distinct names. -/
theorem hasDistinctNames_setMember {name : String} {j : Json} {members : List (String × Json)}
    (hmembers : (Json.obj members).hasDistinctNames) (hj : j.hasDistinctNames) :
    (Json.obj (setMember name j members)).hasDistinctNames := by
  rw [hasDistinctNames_obj] at hmembers ⊢
  refine ⟨nodup_setMember hmembers.1, ?_⟩
  intro m hm
  rcases mem_setMember hm with rfl | hm
  · exact hj
  · exact hmembers.2 m hm

end RouteContract.Json
