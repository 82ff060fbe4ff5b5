import Mathlib.Tactic
import RouteContract.Json.Distinct

/-!
Lists of members as finite maps: the first member of each name, members whose values are a function
of their names, and setting a member twice.
-/

namespace RouteContract.Json

variable {α : Type}

/-- The first entry of each name. -/
def firsts : List (String × α) → List (String × α)
  | [] => []
  | e :: rest => e :: (firsts rest).filter fun other => decide (other.1 ≠ e.1)

theorem firsts_concat (entries : List (String × α)) (e : String × α) :
    firsts (entries ++ [e]) =
      if e.1 ∈ entries.map (·.1) then firsts entries else firsts entries ++ [e] := by
  induction entries with
  | nil => simp [firsts]
  | cons head rest ih =>
      rw [List.cons_append, firsts, ih, firsts, List.map_cons]
      by_cases later : e.1 ∈ rest.map (·.1)
      · rw [if_pos later, if_pos (List.mem_cons_of_mem _ later)]
      · rw [if_neg later, List.filter_append]
        by_cases same : e.1 = head.1
        · simp [same]
        · have absent : e.1 ∉ head.1 :: rest.map (·.1) := by
            simp only [List.mem_cons, not_or]
            exact ⟨same, later⟩
          rw [if_neg absent]
          simp [same]

theorem lookup_firsts (entries : List (String × α)) (key : String) :
    (firsts entries).lookup key = entries.lookup key := by
  induction entries using List.reverseRecOn with
  | nil => rfl
  | append_singleton entries e ih =>
      rw [firsts_concat, List.lookup_append]
      split
      · next seen =>
        rw [ih]
        by_cases same : key = e.1
        · subst same
          rw [Option.or_of_isSome (Table.lookup_isSome_iff.mpr seen)]
        · rw [Table.lookup_cons, if_neg same, List.lookup_nil, Option.or_none]
      · rw [List.lookup_append, ih]

theorem nodup_map_fst_firsts (entries : List (String × α)) :
    ((firsts entries).map (·.1)).Nodup := by
  induction entries using List.reverseRecOn with
  | nil => simp [firsts]
  | append_singleton entries e ih =>
      rw [firsts_concat]
      split
      · exact ih
      · next unseen =>
        rw [List.map_append, List.map_singleton, List.nodup_append]
        refine ⟨ih, List.nodup_singleton _, ?_⟩
        intro name hname other hother heq
        apply unseen
        rw [← Table.lookup_isSome_iff, ← lookup_firsts, Table.lookup_isSome_iff]
        rw [List.mem_singleton] at hother
        rw [← hother, ← heq]
        exact hname

theorem mem_of_mem_firsts {entries : List (String × α)} {e : String × α}
    (h : e ∈ firsts entries) : e ∈ entries := by
  induction entries with
  | nil => exact h
  | cons head rest ih =>
      rw [firsts, List.mem_cons, List.mem_filter] at h
      rcases h with rfl | ⟨hrest, -⟩
      · exact List.mem_cons_self
      · exact List.mem_cons_of_mem _ (ih hrest)

theorem firsts_append (xs ys : List (String × α)) :
    firsts (xs ++ ys) =
      firsts xs ++ (firsts ys).filter fun e => decide (e.1 ∉ xs.map (·.1)) := by
  induction xs with
  | nil => simp [firsts]
  | cons x xs ih =>
      rw [List.cons_append, firsts, ih, firsts, List.filter_append, List.filter_filter,
        List.cons_append]
      congr 2
      apply List.filter_congr
      intro e _
      rw [List.map_cons]
      by_cases same : e.1 = x.1 <;> simp [same]

theorem firsts_of_nodup {entries : List (String × α)} (h : (entries.map (·.1)).Nodup) :
    firsts entries = entries := by
  induction entries with
  | nil => rfl
  | cons e rest ih =>
      rw [List.map_cons, List.nodup_cons] at h
      rw [firsts, ih h.2, List.filter_eq_self.mpr]
      intro other hother
      have hne : other.1 ≠ e.1 := fun heq => h.1 (heq ▸ List.mem_map_of_mem hother)
      exact decide_eq_true hne

/-- Entries that begin with those already there add what comes after these. -/
theorem firsts_append_firsts (xs ys : List (String × α)) :
    firsts (xs ++ firsts (xs ++ ys)) = firsts (xs ++ ys) := by
  have hold : (firsts xs).filter (fun e => decide (e.1 ∉ xs.map (·.1))) = [] := by
    apply List.filter_eq_nil_iff.mpr
    intro e he
    have hmem : e.1 ∈ xs.map (·.1) := by
      rw [← Table.lookup_isSome_iff, ← lookup_firsts, Table.lookup_isSome_iff]
      exact List.mem_map_of_mem he
    simpa using hmem
  rw [firsts_append xs (firsts (xs ++ ys)), firsts_of_nodup (nodup_map_fst_firsts _),
    firsts_append xs ys, List.filter_append, hold, List.nil_append, List.filter_filter]
  simp

theorem setMember_of_lookup {name : String} {v : α} {members : List (String × α)}
    (h : members.lookup name = some v) : setMember name v members = members := by
  induction members with
  | nil => simp at h
  | cons head rest ih =>
      rw [Table.lookup_cons] at h
      rw [setMember]
      by_cases same : head.1 = name
      · rw [if_pos same.symm] at h
        rw [if_pos same, ← Option.some.inj h]
      · rw [if_neg (Ne.symm same)] at h
        rw [if_neg same, ih h]

theorem setMember_setMember (name : String) (v w : α) (members : List (String × α)) :
    setMember name w (setMember name v members) = setMember name w members := by
  induction members with
  | nil => simp [setMember]
  | cons head rest ih =>
      rw [setMember, setMember]
      by_cases same : head.1 = name
      · rw [if_pos same, if_pos same, setMember, if_pos same]
      · rw [if_neg same, if_neg same, setMember, if_neg same, ih]

theorem nodup_eraseDups (names : List String) : names.eraseDups.Nodup := by
  induction names using List.reverseRecOn with
  | nil => simp
  | append_singleton names name ih =>
      rw [List.eraseDups_append]
      by_cases seen : name ∈ names
      · simpa [List.removeAll, seen] using ih
      · rw [List.nodup_append]
        simp only [List.removeAll, List.elem_eq_mem, seen, decide_false, Bool.not_false,
          List.filter_cons_of_pos, List.filter_nil, List.eraseDups_cons, List.eraseDups_nil,
          List.nodup_singleton, List.mem_eraseDups, List.mem_singleton, true_and]
        refine ⟨ih, ?_⟩
        rintro other hother last rfl rfl
        exact seen hother

theorem eraseDups_filter (p : String → Bool) (names : List String) :
    (names.filter p).eraseDups = names.eraseDups.filter p := by
  induction names using List.reverseRecOn with
  | nil => rfl
  | append_singleton names name ih =>
      rw [List.filter_append, List.eraseDups_append, List.eraseDups_append, List.filter_append, ih]
      congr 1
      by_cases hp : p name <;> by_cases seen : name ∈ names <;>
        simp [List.removeAll, hp, seen, List.eraseDups_cons]

/-- Names that begin with those already there add what comes after these. -/
theorem eraseDups_append_of_eraseDups {xs ys zs : List String}
    (h : zs.eraseDups = (xs ++ ys).eraseDups) : (xs ++ zs).eraseDups = (xs ++ ys).eraseDups := by
  have hnew (names : List String) : (names.removeAll xs).eraseDups =
      names.eraseDups.filter fun name => !xs.elem name :=
    eraseDups_filter _ names
  have hold : xs.eraseDups.filter (fun name => !xs.elem name) = [] := by
    apply List.filter_eq_nil_iff.mpr
    intro name hname
    simpa using hname
  rw [List.eraseDups_append, hnew, h, List.eraseDups_append, List.filter_append, hold,
    List.nil_append, hnew, List.filter_filter]
  simp

theorem lookup_map_name (value : String → α) (names : List String) (name : String) :
    (names.map fun n => (n, value n)).lookup name =
      if name ∈ names then some (value name) else none := by
  induction names with
  | nil => simp
  | cons head rest ih =>
      rw [List.map_cons, Table.lookup_cons, ih]
      by_cases same : name = head
      · simp [same]
      · simp [same]

/-- Setting one section of a list of distinct names changes the function at that name and adds the
name if it is new. -/
theorem setMember_map_name (value : String → α) {names : List String} (distinct : names.Nodup)
    (name : String) (v : α) :
    setMember name v (names.map fun n => (n, value n)) =
      (if name ∈ names then names else names ++ [name]).map fun n =>
        (n, if n = name then v else value n) := by
  induction names with
  | nil => simp [setMember]
  | cons head rest ih =>
      rw [List.nodup_cons] at distinct
      rw [List.map_cons, setMember]
      by_cases same : head = name
      · subst same
        have hrest : rest.map (fun n => (n, value n)) =
            rest.map fun n => (n, if n = head then v else value n) := by
          apply List.map_congr_left
          intro n hn
          have different : n ≠ head := by
            rintro rfl
            exact distinct.1 hn
          rw [if_neg different]
        simp [hrest]
      · rw [if_neg same, ih distinct.2]
        by_cases later : name ∈ rest
        · simp [later, same]
        · simp [later, same, Ne.symm same]

end RouteContract.Json
