import Mathlib.Tactic
import RouteContract.Table

/-!
Tables as finite maps. A new key adds its entry and nothing else, a key that is there has its entry
replaced in place, and a run of insertions answers each key by the inserted entry or else by what
was there before. A table in order is known by its answers.
-/

namespace RouteContract.Table

variable {κ α β : Type} [DecidableEq κ]

theorem lookup_map_snd (f : α → β) (entries : List (κ × α)) (name : κ) :
    (entries.map fun entry => (entry.1, f entry.2)).lookup name = (entries.lookup name).map f := by
  induction entries with
  | nil => rfl
  | cons entry rest ih =>
      rw [List.map_cons, lookup_cons, lookup_cons, ih]
      split <;> rfl

/-- Entries with the same keys and related values give related answers. -/
theorem lookup_rel {R : α → β → Prop} {entries : List (κ × α)} {entries' : List (κ × β)}
    (h : List.Forall₂ (fun entry entry' => entry.1 = entry'.1 ∧ R entry.2 entry'.2)
      entries entries') (name : κ) : Option.Rel R (entries.lookup name) (entries'.lookup name) := by
  induction h with
  | nil => exact .none
  | cons hentry _ ih =>
      rw [lookup_cons, lookup_cons, ← hentry.1]
      split
      · exact .some hentry.2
      · exact ih

/-- Keys may be renamed, if no two keys get one name. -/
theorem lookup_map_key {μ : Type} [DecidableEq μ] {rename : κ → μ}
    (hrename : Function.Injective rename) (f : κ → α → β) (entries : List (κ × α)) (key : κ) :
    (entries.map fun entry => (rename entry.1, f entry.1 entry.2)).lookup (rename key) =
      (entries.lookup key).map (f key) := by
  induction entries with
  | nil => rfl
  | cons entry rest ih =>
      rw [List.map_cons, lookup_cons, lookup_cons, ih]
      by_cases hkey : key = entry.1
      · rw [hkey, if_pos rfl, if_pos rfl, Option.map_some]
      · rw [if_neg (fun heq => hkey (hrename heq)), if_neg hkey]

/-- Looking up every key of a list that has the keys of a table visits each of its entries once. -/
theorem flatMap_lookup_perm (f : κ → α → List β) {keys : List κ} (hkeys : keys.Nodup)
    {entries : List (κ × α)} (hdistinct : (entries.map (·.1)).Nodup)
    (hsub : entries.map (·.1) ⊆ keys) :
    (keys.flatMap fun key => ((entries.lookup key).map (f key)).getD []).Perm
      (entries.flatMap fun entry => f entry.1 entry.2) := by
  induction entries generalizing keys with
  | nil => simp
  | cons entry rest ih =>
      rw [List.map_cons, List.nodup_cons] at hdistinct
      have hmem : entry.1 ∈ keys := hsub List.mem_cons_self
      have hrest : rest.map (·.1) ⊆ keys.erase entry.1 := by
        intro key hkey
        have hne : key ≠ entry.1 := fun heq => hdistinct.1 (heq ▸ hkey)
        exact (List.mem_erase_of_ne hne).mpr (hsub (List.mem_cons_of_mem _ hkey))
      have hothers : ((keys.erase entry.1).flatMap fun key =>
          (((entry :: rest).lookup key).map (f key)).getD []) =
          (keys.erase entry.1).flatMap fun key => ((rest.lookup key).map (f key)).getD [] := by
        apply List.flatMap_congr
        intro key hkey
        rw [lookup_cons, if_neg (hkeys.mem_erase_iff.mp hkey).1]
      -- The key of the first entry is visited first; without it the keys are those of the rest.
      refine ((List.perm_cons_erase hmem).flatMap_right _).trans ?_
      rw [List.flatMap_cons, List.flatMap_cons, hothers, lookup_cons, if_pos rfl]
      exact (ih (hkeys.erase _) hdistinct.2 hrest).append_left _

variable [LT κ] [DecidableLT κ]

theorem lookup_insertNew (key name : κ) (value : α) (t : Table κ α) :
    (insertNew key value t).lookup name =
      if name = key then some ((t.lookup key).getD value) else t.lookup name := by
  unfold insertNew
  cases hkey : t.lookup key with
  | none =>
      rw [if_neg (by simp), lookup_insert]
      rfl
  | some old =>
      rw [if_pos (by simp)]
      split
      · next heq => rw [heq, hkey, Option.getD_some]
      · rfl

/-- A run of insertions of new keys answers a key by what was there, or else by the inserted
entry. -/
theorem lookup_foldl_insertNew (entries t : Table κ α) (name : κ) :
    (entries.foldl (fun t (key, value) => t.insertNew key value) t).lookup name =
      (t.lookup name).or (entries.lookup name) := by
  induction entries generalizing t with
  | nil => simp
  | cons entry rest ih =>
      rw [List.foldl_cons, ih, lookup_insertNew, lookup_cons]
      by_cases hname : name = entry.1
      · rw [if_pos hname, if_pos hname, hname]
        cases t.lookup entry.1 <;> rfl
      · rw [if_neg hname, if_neg hname]

/-- Inserting a new key adds its entry and changes nothing else. -/
theorem insert_perm_of_not_mem {key : κ} (value : α) {t : Table κ α} (h : key ∉ t.map (·.1)) :
    (insert key value t).Perm ((key, value) :: t) := by
  induction t with
  | nil => rfl
  | cons head rest ih =>
      rw [List.map_cons, List.mem_cons, not_or] at h
      rw [insert]
      split
      · rfl
      · rw [if_neg h.1]
        exact ((ih h.2).cons head).trans (List.Perm.swap (key, value) head rest)

theorem mem_insert {key : κ} {value : α} {entry : κ × α} {t : Table κ α}
    (h : entry ∈ insert key value t) : entry = (key, value) ∨ entry ∈ t := by
  induction t with
  | nil => simpa [insert] using h
  | cons head rest ih =>
      rw [insert] at h
      split at h
      · exact List.mem_cons.mp h
      · split at h
        · exact (List.mem_cons.mp h).imp_right (List.mem_cons_of_mem _)
        · rcases List.mem_cons.mp h with rfl | h
          · exact Or.inr List.mem_cons_self
          · exact (ih h).imp_right (List.mem_cons_of_mem _)

/-- A run of insertions under distinct keys, some of which are left out, answers a key by what it
inserts there, or else by what was there. -/
theorem lookup_foldl_insert (leaveOut : κ → Bool) {entries : List (κ × α)}
    (hdistinct : (entries.map (·.1)).Nodup) (t : Table κ α) (name : κ) :
    (entries.foldl (fun t entry => if leaveOut entry.1 then t else insert entry.1 entry.2 t)
      t).lookup name =
      if leaveOut name then t.lookup name else (entries.lookup name).or (t.lookup name) := by
  induction entries generalizing t with
  | nil => simp
  | cons entry rest ih =>
      rw [List.map_cons, List.nodup_cons] at hdistinct
      rw [List.foldl_cons, ih hdistinct.2, lookup_cons]
      by_cases hname : name = entry.1
      · have habsent : rest.lookup name = none := lookup_eq_none_iff.mpr (hname ▸ hdistinct.1)
        rw [← hname, habsent, if_pos rfl]
        cases leaveOut name <;> simp [lookup_insert]
      · have hother : (if leaveOut entry.1 then t else insert entry.1 entry.2 t).lookup name =
            t.lookup name := by
          split
          · rfl
          · rw [lookup_insert, if_neg hname]
        rw [hother, if_neg hname]

theorem insert_ne_nil (key : κ) (value : α) (t : Table κ α) : insert key value t ≠ [] := by
  cases t with
  | nil => simp [insert]
  | cons head rest =>
      rw [insert]
      split
      · simp
      · split <;> simp

/-- Inserting goes along with changing all values and renaming all keys, if the new names are in the
order of the keys. -/
theorem map_insert {μ : Type} [DecidableEq μ] [LT μ] [DecidableLT μ] (rename : κ → μ) (f : α → β)
    {key : κ} (value : α) {t : Table κ α}
    (hlt : ∀ k ∈ t.map (·.1), rename key < rename k ↔ key < k)
    (heq : ∀ k ∈ t.map (·.1), rename key = rename k ↔ key = k) :
    (insert key value t).map (fun entry => (rename entry.1, f entry.2)) =
      insert (rename key) (f value) (t.map fun entry => (rename entry.1, f entry.2)) := by
  induction t with
  | nil => rfl
  | cons head rest ih =>
      have hhead : head.1 ∈ (head :: rest).map (·.1) := List.mem_cons_self
      have hrest := ih (fun k hk => hlt k (List.mem_cons_of_mem _ hk))
        (fun k hk => heq k (List.mem_cons_of_mem _ hk))
      simp only [insert, List.map_cons, hlt _ hhead, heq _ hhead]
      split
      · rfl
      · split
        · rfl
        · rw [List.map_cons, hrest]

variable [LE κ] [Std.IsLinearOrder κ] [Std.LawfulOrderLT κ]

/-- Inserting a key that is there replaces its entry in place. -/
theorem Sorted.insert_of_lookup {t : Table κ α} (h : t.Sorted) {key : κ} {old : α} (value : α)
    (hold : t.lookup key = some old) :
    ∃ before after, t = before ++ (key, old) :: after ∧
      Table.insert key value t = before ++ (key, value) :: after := by
  induction t with
  | nil => cases hold
  | cons entry rest ih =>
      obtain ⟨hfirst, hrest⟩ := sorted_cons.mp h
      rw [lookup_cons] at hold
      by_cases hkey : key = entry.1
      · subst hkey
        rw [if_pos rfl, Option.some.injEq] at hold
        refine ⟨[], rest, ?_, ?_⟩
        · rw [List.nil_append, ← hold]
        · rw [Table.insert, if_neg Std.lt_irrefl, if_pos rfl, List.nil_append]
      · rw [if_neg hkey] at hold
        have hlt : ¬ key < entry.1 :=
          Std.not_lt.mpr (Std.le_of_lt (hfirst key (mem_keys_of_lookup hold)))
        obtain ⟨before, after, hsplit, hinsert⟩ := ih hrest hold
        refine ⟨entry :: before, after, ?_, ?_⟩
        · rw [hsplit, List.cons_append]
        · rw [Table.insert, if_neg hlt, if_neg hkey, hinsert, List.cons_append]

omit [DecidableLT κ] in
/-- Tables in order that answer every key alike are the same. -/
theorem Sorted.ext {s t : Table κ α} (hs : s.Sorted) (ht : t.Sorted)
    (h : ∀ name, s.lookup name = t.lookup name) : s = t := by
  have hmem {s t : Table κ α} (hs : s.Sorted) (h : ∀ name, s.lookup name = t.lookup name)
      {entry : κ × α} (hentry : entry ∈ s) : entry ∈ t := by
    have hfound := lookup_of_mem hs.nodup hentry
    rw [h] at hfound
    exact mem_of_lookup hfound
  have hperm : s.Perm t := by
    refine (List.perm_ext_iff_of_nodup hs.nodup.of_map ht.nodup.of_map).mpr ?_
    intro entry
    exact ⟨hmem hs h, hmem ht fun name => (h name).symm⟩
  refine hperm.eq_of_pairwise ?_ (List.pairwise_map.mp hs) (List.pairwise_map.mp ht)
  intro a b _ _ hab hba
  exact absurd (Std.lt_trans hab hba) Std.lt_irrefl

/-- Entries in order are their own table. -/
theorem ofList_of_sorted {t : Table κ α} (h : t.Sorted) : ofList t = t := by
  refine (sorted_ofList t).ext h ?_
  intro name
  have hlookup := lookup_foldl_insert (fun _ => false) h.nodup [] name
  simpa [ofList] using hlookup

/-- Inserting what is there changes nothing. -/
theorem Sorted.insert_of_lookup_eq {t : Table κ α} (h : t.Sorted) {key : κ} {value : α}
    (hfound : t.lookup key = some value) : Table.insert key value t = t := by
  refine (h.insert key value).ext h ?_
  intro name
  rw [lookup_insert]
  split
  · next heq => rw [heq, hfound]
  · rfl

end RouteContract.Table
