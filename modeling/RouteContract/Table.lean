/-!
Tables: lists of entries in the order of their keys, each key once. Inserting a key that is there
replaces its value.
-/

namespace RouteContract

/-- A list of entries, kept in the order of the keys by `Table.insert`. -/
abbrev Table (κ α : Type) := List (κ × α)

namespace Table

variable {κ α : Type} [LT κ] [DecidableLT κ] [DecidableEq κ]

def insert (key : κ) (value : α) : Table κ α → Table κ α
  | [] => [(key, value)]
  | (k, v) :: rest =>
    if key < k then (key, value) :: (k, v) :: rest
    else if key = k then (key, value) :: rest
    else (k, v) :: insert key value rest

/-- The table of some entries; of entries with equal keys the last counts. -/
def ofList (entries : List (κ × α)) : Table κ α :=
  entries.foldl (fun t (k, v) => insert k v t) []

/-- Inserts an entry unless its key is there. -/
def insertNew (key : κ) (value : α) (t : Table κ α) : Table κ α :=
  if (t.lookup key).isSome then t else insert key value t

omit [LT κ] [DecidableLT κ] in
theorem lookup_cons (name k : κ) (v : α) (rest : List (κ × α)) :
    List.lookup name ((k, v) :: rest) = if name = k then some v else rest.lookup name := by
  rw [List.lookup_cons]
  by_cases h : name = k
  · simp [h]
  · simp [h, beq_eq_false_iff_ne.mpr h]

/-- Inserting gives its own key the new value and leaves all others. -/
theorem lookup_insert (key name : κ) (value : α) (t : Table κ α) :
    (insert key value t).lookup name = if name = key then some value else t.lookup name := by
  induction t with
  | nil => simp [insert, lookup_cons]
  | cons entry rest ih =>
    obtain ⟨k, v⟩ := entry
    rw [insert]
    split
    · rw [lookup_cons]
    · split
      · next same => subst same; simp only [lookup_cons]; split <;> rfl
      · next different =>
        rw [lookup_cons, ih, lookup_cons]
        by_cases h : name = k
        · subst h; simp [Ne.symm different]
        · simp [h]

omit [LT κ] [DecidableLT κ] in
theorem mem_keys_of_lookup {name : κ} {value : α} {entries : List (κ × α)}
    (h : entries.lookup name = some value) : name ∈ entries.map (·.1) := by
  induction entries with
  | nil => simp at h
  | cons entry rest ih =>
    rw [lookup_cons] at h
    split at h
    · next same => simp [same]
    · exact List.mem_cons_of_mem _ (ih h)

omit [LT κ] [DecidableLT κ] in
theorem mem_of_lookup {name : κ} {value : α} {entries : List (κ × α)}
    (h : entries.lookup name = some value) : (name, value) ∈ entries := by
  induction entries with
  | nil => simp at h
  | cons entry rest ih =>
    rw [lookup_cons] at h
    split at h
    · next same =>
      cases h
      simp [same]
    · exact List.mem_cons_of_mem _ (ih h)

omit [LT κ] [DecidableLT κ] in
theorem lookup_isSome_iff {name : κ} {entries : List (κ × α)} :
    (entries.lookup name).isSome ↔ name ∈ entries.map (·.1) := by
  induction entries with
  | nil => simp
  | cons entry rest ih =>
    rw [lookup_cons, List.map_cons, List.mem_cons]
    by_cases same : name = entry.1 <;> simp [same, ih]

omit [LT κ] [DecidableLT κ] in
theorem lookup_eq_none_iff {name : κ} {entries : List (κ × α)} :
    entries.lookup name = none ↔ name ∉ entries.map (·.1) := by
  rw [← lookup_isSome_iff, Bool.not_eq_true, Option.isSome_eq_false_iff, Option.isNone_iff_eq_none]

omit [LT κ] [DecidableLT κ] in
/-- With distinct keys every entry is found under its key. -/
theorem lookup_of_mem {name : κ} {value : α} {entries : List (κ × α)}
    (distinct : (entries.map (·.1)).Nodup) (h : (name, value) ∈ entries) :
    entries.lookup name = some value := by
  induction entries with
  | nil => simp at h
  | cons entry rest ih =>
    rw [List.map_cons, List.nodup_cons] at distinct
    rw [lookup_cons]
    rcases List.mem_cons.mp h with rfl | h
    · simp
    · have different : name ≠ entry.1 := by
        rintro rfl
        exact distinct.1 (List.mem_map.mpr ⟨_, h, rfl⟩)
      rw [if_neg different]
      exact ih distinct.2 h

/-- The keys are in strict order. -/
def Sorted (t : Table κ α) : Prop :=
  (t.map (·.1)).Pairwise (· < ·)

instance (t : Table κ α) : Decidable t.Sorted :=
  inferInstanceAs (Decidable (List.Pairwise (· < ·) (t.map (·.1))))

omit [DecidableLT κ] [DecidableEq κ] in
@[simp] theorem sorted_nil : Sorted ([] : Table κ α) := List.Pairwise.nil

omit [DecidableLT κ] [DecidableEq κ] in
theorem sorted_singleton (entry : κ × α) : Sorted [entry] := List.pairwise_singleton _ _

omit [DecidableLT κ] [DecidableEq κ] in
@[simp] theorem sorted_cons {entry : κ × α} {rest : Table κ α} :
    Sorted (entry :: rest) ↔ (∀ name ∈ rest.map (·.1), entry.1 < name) ∧ Sorted rest :=
  List.pairwise_cons

omit [DecidableLT κ] [DecidableEq κ] in
/-- Changing values leaves the order of keys. -/
@[simp] theorem sorted_map {β : Type} {f : κ × α → β} {t : Table κ α} :
    Sorted (t.map fun entry => (entry.1, f entry)) ↔ Sorted t := by
  rw [Sorted, List.map_map]
  rfl

omit [DecidableLT κ] [DecidableEq κ] in
/-- What every step keeps in order, a run of steps keeps in order. -/
theorem Sorted.foldl {β : Type} {add : Table κ α → β → Table κ α}
    (kept : ∀ t x, t.Sorted → (add t x).Sorted) (xs : List β) {t : Table κ α} (h : t.Sorted) :
    (xs.foldl add t).Sorted := by
  induction xs generalizing t with
  | nil => exact h
  | cons x xs ih => exact ih (kept t x h)

theorem mem_keys_insert {key name : κ} {value : α} {t : Table κ α} :
    name ∈ (insert key value t).map (·.1) ↔ name = key ∨ name ∈ t.map (·.1) := by
  rw [← lookup_isSome_iff, lookup_insert, ← lookup_isSome_iff]
  by_cases same : name = key <;> simp [same]

variable [LE κ] [Std.IsLinearOrder κ] [Std.LawfulOrderLT κ]

omit [DecidableLT κ] [DecidableEq κ] [Std.IsLinearOrder κ] in
theorem Sorted.nodup {t : Table κ α} (h : t.Sorted) : (t.map (·.1)).Nodup := by
  refine List.Pairwise.imp ?_ h
  intro a b before same
  subst same
  exact Std.lt_irrefl before

theorem Sorted.insert {t : Table κ α} (h : t.Sorted) (key : κ) (value : α) :
    (Table.insert key value t).Sorted := by
  induction t with
  | nil => simp [Table.insert]
  | cons entry rest ih =>
    obtain ⟨first, sortedRest⟩ := sorted_cons.mp h
    rw [Table.insert]
    split
    · next before =>
      refine sorted_cons.mpr ⟨?_, h⟩
      intro name mem
      rcases List.mem_cons.mp mem with rfl | mem
      · exact before
      · exact Std.lt_trans before (first name mem)
    · next notBefore =>
      split
      · next same =>
        subst same
        exact sorted_cons.mpr ⟨first, sortedRest⟩
      · next different =>
        refine sorted_cons.mpr ⟨?_, ih sortedRest⟩
        intro name mem
        rcases mem_keys_insert.mp mem with rfl | mem
        · exact Std.lt_of_le_of_ne (Std.not_lt.mp notBefore) (Ne.symm different)
        · exact first name mem

theorem Sorted.insertNew {t : Table κ α} (h : t.Sorted) (key : κ) (value : α) :
    (Table.insertNew key value t).Sorted := by
  unfold Table.insertNew
  split
  · exact h
  · exact h.insert key value

@[simp] theorem sorted_ofList (entries : List (κ × α)) : (ofList entries).Sorted :=
  Sorted.foldl (fun _ entry h => h.insert entry.1 entry.2) entries sorted_nil

end Table

end RouteContract
