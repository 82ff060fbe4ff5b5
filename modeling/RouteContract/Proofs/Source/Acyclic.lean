import Mathlib.Algebra.Order.BigOperators.Group.List
import Mathlib.Logic.Relation
import Mathlib.Tactic
import RouteContract.Schema.Descriptor
import RouteContract.Table

/-!
Aliases and renaming imports of which none leads back to itself. From a type one is led to the
target of an alias, to the same type under the name that an import has renamed, and to the types
that stand inside it. All that is ever met from one type is one of finitely many types: a part of it
or of the target of an alias, perhaps under another name. Where nothing leads back to itself, the
number of types that can still be met is therefore a rank that every step lowers.
-/

namespace RouteContract.Source

open Relation (TransGen)

namespace TypeExpr

/-- The types that stand directly inside a type. -/
def inside : TypeExpr → List TypeExpr
  | named _ _ _ arguments => arguments
  | reference t => [t]
  | paren t => [t]
  | sequence t => [t]
  | _ => []

theorem size_eq (t : TypeExpr) : t.size = typesSize t.inside + 1 := by
  cases t <;> simp [size, inside, typesSize]

theorem size_le_typesSize {ts : List TypeExpr} {t : TypeExpr} (h : t ∈ ts) :
    t.size ≤ typesSize ts := by
  induction ts with
  | nil => cases h
  | cons u us ih =>
    rw [typesSize]
    rcases List.mem_cons.mp h with rfl | h
    · omega
    · have hrest := ih h
      omega

/-- What holds of a type if it holds of the types directly inside it, holds of every type. -/
theorem inductionOn {motive : TypeExpr → Prop} (t : TypeExpr)
    (h : ∀ t, (∀ u ∈ t.inside, motive u) → motive t) : motive t := by
  induction hsize : t.size using Nat.strong_induction_on generalizing t with
  | _ n ih =>
    refine h t fun u hu => ih u.size ?_ u rfl
    have hle := size_le_typesSize hu
    have heq := t.size_eq
    omega

end TypeExpr

mutual

/-- A type and all types inside it. -/
def TypeExpr.parts : TypeExpr → List TypeExpr
  | .named lead name applied arguments =>
    .named lead name applied arguments :: typesParts arguments
  | .reference t => .reference t :: t.parts
  | .paren t => .paren t :: t.parts
  | .sequence t => .sequence t :: t.parts
  | .bounded traits => [.bounded traits]
  | .other => [.other]

def typesParts : List TypeExpr → List TypeExpr
  | [] => []
  | t :: ts => t.parts ++ typesParts ts

end

theorem mem_typesParts {ts : List TypeExpr} {u : TypeExpr} :
    u ∈ typesParts ts ↔ ∃ t ∈ ts, u ∈ t.parts := by
  induction ts with
  | nil => simp [typesParts]
  | cons t ts ih => simp [typesParts, ih]

namespace TypeExpr

variable {t u v : TypeExpr}

theorem parts_eq (t : TypeExpr) : t.parts = t :: typesParts t.inside := by
  cases t <;> simp [parts, inside, typesParts]

theorem self_mem_parts (t : TypeExpr) : t ∈ t.parts := by
  rw [parts_eq]
  exact List.mem_cons_self

theorem length_typesParts {ts : List TypeExpr} (h : ∀ t ∈ ts, t.parts.length = t.size) :
    (typesParts ts).length = typesSize ts := by
  induction ts with
  | nil => rfl
  | cons t ts ih =>
    rw [typesParts, typesSize, List.length_append, h t List.mem_cons_self,
      ih fun u hu => h u (List.mem_cons_of_mem _ hu)]

theorem length_parts (t : TypeExpr) : t.parts.length = t.size := by
  induction t using inductionOn with
  | h t ih => rw [parts_eq, size_eq, List.length_cons, length_typesParts ih]

/-- What stands inside a part of a type is a part of the type. -/
theorem mem_parts_of_inside (hu : u ∈ t.parts) (hv : v ∈ u.inside) : v ∈ t.parts := by
  induction t using inductionOn with
  | h t ih =>
    rw [parts_eq, List.mem_cons] at hu ⊢
    refine Or.inr (mem_typesParts.mpr ?_)
    rcases hu with rfl | hu
    · exact ⟨v, hv, v.self_mem_parts⟩
    · obtain ⟨s, hs, hu⟩ := mem_typesParts.mp hu
      exact ⟨s, hs, ih s hs hu⟩

theorem mem_parts_trans (hu : u ∈ t.parts) (hv : v ∈ u.parts) : v ∈ t.parts := by
  induction u using inductionOn with
  | h u ih =>
    rw [parts_eq, List.mem_cons] at hv
    rcases hv with rfl | hv
    · exact hu
    · obtain ⟨s, hs, hv⟩ := mem_typesParts.mp hv
      exact ih s hs (mem_parts_of_inside hu hs) hv

/-- The name of a type that is a single name, applied or not. -/
def loneName? : TypeExpr → Option String
  | named lead name _ _ => if lead.qualified || !lead.names.isEmpty then none else some name
  | _ => none

/-- The single names in a type. -/
def loneNames (t : TypeExpr) : List String := t.parts.filterMap loneName?

theorem mem_loneNames {name : String} :
    name ∈ t.loneNames ↔ ∃ u ∈ t.parts, u.loneName? = some name :=
  List.mem_filterMap

theorem loneNames_subset_of_inside (hu : u ∈ t.inside) : u.loneNames ⊆ t.loneNames := by
  intro name hname
  obtain ⟨v, hv, hlone⟩ := mem_loneNames.mp hname
  have hpart := mem_parts_of_inside t.self_mem_parts hu
  exact mem_loneNames.mpr ⟨v, mem_parts_trans hpart hv, hlone⟩

end TypeExpr

namespace Index

variable {index : Index} {t u v : TypeExpr}

/-- What one is led to from a type: by an alias, by a renaming import, or inside the type. -/
inductive LeadsTo (index : Index) : TypeExpr → TypeExpr → Prop
  | target {t target : TypeExpr} (h : index.step t = .type target) : LeadsTo index t target
  | rename {t : TypeExpr} {old : String} (h : index.step t = .rename old) :
      LeadsTo index t (renamed old t)
  | inside {t u : TypeExpr} (h : u ∈ t.inside) : LeadsTo index t u

/-- No alias and no renaming import leads back to itself, be it through others or inside types. -/
def Acyclic (index : Index) : Prop := ∀ t, ¬ TransGen index.LeadsTo t t

theorem exists_of_step_type {target : TypeExpr} (h : index.step t = .type target) :
    ∃ name, t.loneName? = some name ∧ (name, target) ∈ index.aliases := by
  cases t with
  | named lead name applied arguments =>
    rw [step] at h
    split at h
    · cases h
    · next hlone =>
      refine ⟨name, by rw [TypeExpr.loneName?, if_neg hlone], ?_⟩
      split at h
      · next found =>
        cases h
        cases applied with
        | true => cases found
        | false => exact Table.mem_of_lookup found
      · split at h <;> cases h
  | _ => cases h

theorem lookup_of_step_rename {old : String} (h : index.step t = .rename old) :
    ∃ name, t.loneName? = some name ∧ index.renames.lookup name = some old := by
  cases t with
  | named lead name applied arguments =>
    rw [step] at h
    split at h
    · cases h
    · next hlone =>
      refine ⟨name, by rw [TypeExpr.loneName?, if_neg hlone], ?_⟩
      split at h
      · cases h
      · split at h
        · next found =>
          cases h
          exact found
        · cases h
  | _ => cases h

theorem exists_of_step_rename {old : String} (h : index.step t = .rename old) :
    ∃ name, t.loneName? = some name ∧ (name, old) ∈ index.renames := by
  obtain ⟨name, hlone, hlookup⟩ := lookup_of_step_rename h
  exact ⟨name, hlone, Table.mem_of_lookup hlookup⟩

theorem inside_renamed (old : String) (t : TypeExpr) : (renamed old t).inside = t.inside := by
  cases t <;> rfl

theorem loneName?_renamed {name : String} (old : String) (h : t.loneName? = some name) :
    (renamed old t).loneName? = some old := by
  cases t with
  | named lead name applied arguments =>
    rw [TypeExpr.loneName?] at h
    split at h
    · cases h
    · next hlone => rw [renamed, TypeExpr.loneName?, if_neg hlone]
  | _ => cases h

theorem renamed_renamed (new old : String) (t : TypeExpr) :
    renamed new (renamed old t) = renamed new t := by
  cases t <;> rfl

/-- The parts of a type and of all targets of aliases. -/
def bases (index : Index) (t : TypeExpr) : List TypeExpr :=
  t.parts ++ typesParts (index.aliases.map (·.2))

/-- All types that can be met from a type: the parts, also under the names that imports rename. -/
def within (index : Index) (t : TypeExpr) : List TypeExpr :=
  index.bases t ++ index.renames.flatMap fun entry => (index.bases t).map (renamed entry.2)

theorem mem_within : u ∈ index.within t ↔
    ∃ base ∈ index.bases t, u = base ∨ ∃ entry ∈ index.renames, u = renamed entry.2 base := by
  simp only [within, List.mem_append, List.mem_flatMap, List.mem_map]
  constructor
  · rintro (h | ⟨entry, hentry, base, hbase, rfl⟩)
    · exact ⟨u, h, Or.inl rfl⟩
    · exact ⟨base, hbase, Or.inr ⟨entry, hentry, rfl⟩⟩
  · rintro ⟨base, hbase, rfl | ⟨entry, hentry, rfl⟩⟩
    · exact Or.inl hbase
    · exact Or.inr ⟨entry, hentry, base, hbase, rfl⟩

theorem self_mem_within (index : Index) (t : TypeExpr) : t ∈ index.within t :=
  List.mem_append_left _ (List.mem_append_left _ t.self_mem_parts)

theorem length_within (index : Index) (t : TypeExpr) :
    (index.within t).length =
      (t.size + typesSize (index.aliases.map (·.2))) * (index.renames.length + 1) := by
  have hbases : (index.bases t).length = t.size + typesSize (index.aliases.map (·.2)) := by
    rw [bases, List.length_append, TypeExpr.length_parts,
      TypeExpr.length_typesParts fun u _ => u.length_parts]
  have hrenamed : (index.renames.flatMap fun entry =>
      (index.bases t).map (renamed entry.2)).length =
        index.renames.length * (index.bases t).length := by
    simp [List.length_flatMap]
  rw [within, List.length_append, hrenamed, hbases]
  ring

theorem mem_bases_of_inside (hu : u ∈ index.bases t) (hv : v ∈ u.inside) : v ∈ index.bases t := by
  rw [bases, List.mem_append] at hu ⊢
  rcases hu with hu | hu
  · exact Or.inl (TypeExpr.mem_parts_of_inside hu hv)
  · obtain ⟨s, hs, hu⟩ := mem_typesParts.mp hu
    exact Or.inr (mem_typesParts.mpr ⟨s, hs, TypeExpr.mem_parts_of_inside hu hv⟩)

/-- One is never led out of what can be met. -/
theorem mem_within_of_leadsTo (hu : u ∈ index.within t) (h : index.LeadsTo u v) :
    v ∈ index.within t := by
  rw [mem_within] at hu ⊢
  obtain ⟨base, hbase, hu⟩ := hu
  cases h with
  | target hstep =>
    obtain ⟨name, -, hentry⟩ := exists_of_step_type hstep
    have hmem : v ∈ index.aliases.map (·.2) := List.mem_map.mpr ⟨_, hentry, rfl⟩
    have htarget := mem_typesParts.mpr ⟨v, hmem, v.self_mem_parts⟩
    exact ⟨v, List.mem_append_right _ htarget, Or.inl rfl⟩
  | rename hstep =>
    obtain ⟨name, -, hentry⟩ := exists_of_step_rename hstep
    refine ⟨base, hbase, Or.inr ⟨_, hentry, ?_⟩⟩
    rcases hu with rfl | ⟨entry, -, rfl⟩
    · rfl
    · rw [renamed_renamed]
  | inside hinside =>
    refine ⟨v, mem_bases_of_inside hbase ?_, Or.inl rfl⟩
    rcases hu with rfl | ⟨entry, -, rfl⟩
    · exact hinside
    · rwa [inside_renamed] at hinside

theorem mem_within_of_transGen (hu : u ∈ index.within t) (h : TransGen index.LeadsTo u v) :
    v ∈ index.within t := by
  induction h with
  | single h => exact mem_within_of_leadsTo hu h
  | tail _ h ih => exact mem_within_of_leadsTo ih h

open Classical in
/-- The number of types that can still be met from `u`, of those that can be met from `t`. -/
noncomputable def rank (index : Index) (t u : TypeExpr) : Nat :=
  ((index.within t).toFinset.filter (TransGen index.LeadsTo u)).card

theorem Acyclic.rank_lt (hacyclic : index.Acyclic) (hu : u ∈ index.within t)
    (h : TransGen index.LeadsTo u v) : index.rank t v < index.rank t u := by
  classical
  apply Finset.card_lt_card
  refine ⟨?_, ?_⟩
  · intro w hw
    rw [Finset.mem_filter] at hw ⊢
    exact ⟨hw.1, h.trans hw.2⟩
  · intro hsubset
    -- What is met next can still be met from before, but not from itself.
    have hv := List.mem_toFinset.mpr (mem_within_of_transGen hu h)
    exact hacyclic v (Finset.mem_filter.mp (hsubset (Finset.mem_filter.mpr ⟨hv, h⟩))).2

/-- Where nothing leads back to itself, one is led on only finitely often. -/
theorem Acyclic.wellFounded (hacyclic : index.Acyclic) :
    WellFounded (Function.swap index.LeadsTo) := by
  refine ⟨fun t => ?_⟩
  have hacc (n : Nat) : ∀ u ∈ index.within t, index.rank t u < n →
      Acc (Function.swap index.LeadsTo) u := by
    induction n with
    | zero => exact fun u _ hn => absurd hn (Nat.not_lt_zero _)
    | succ n ih =>
      intro u hu hn
      refine Acc.intro u fun v h => ih v (mem_within_of_leadsTo hu h) ?_
      have hlower := hacyclic.rank_lt hu (.single h)
      omega
  exact hacc _ t (index.self_mem_within t) (Nat.lt_succ_self _)

/-- Nothing leads back to itself if names can be ranked so that every alias stands above the names
in its target, and every new name above the one that it stands for. -/
theorem acyclic_of_rank (rank : String → Nat)
    (haliases : ∀ entry ∈ index.aliases, ∀ name ∈ entry.2.loneNames, rank name < rank entry.1)
    (hrenames : ∀ entry ∈ index.renames, rank entry.2 < rank entry.1) : index.Acyclic := by
  have hacc (n : Nat) : ∀ t : TypeExpr, (∀ name ∈ t.loneNames, rank name < n) →
      Acc (Function.swap index.LeadsTo) t := by
    induction n using Nat.strong_induction_on with
    | _ n below =>
      -- A type under one name after the other, with everything inside it known to be finite.
      have hnamed (r : Nat) : ∀ t : TypeExpr,
          (∀ u ∈ t.inside, Acc (Function.swap index.LeadsTo) u) →
          (∀ name, t.loneName? = some name → rank name < n ∧ rank name = r) →
          Acc (Function.swap index.LeadsTo) t := by
        induction r using Nat.strong_induction_on with
        | _ r ih =>
          intro t hinside hname
          refine Acc.intro t fun u h => ?_
          cases h with
          | target hstep =>
            obtain ⟨name, hlone, hentry⟩ := exists_of_step_type hstep
            exact below (rank name) (hname name hlone).1 u (haliases _ hentry)
          | rename hstep =>
            obtain ⟨name, hlone, hentry⟩ := exists_of_step_rename hstep
            have hlower := hrenames _ hentry
            obtain ⟨hbound, rfl⟩ := hname name hlone
            refine ih _ hlower _ (by rwa [inside_renamed]) fun other hother => ?_
            rw [loneName?_renamed _ hlone, Option.some.injEq] at hother
            subst hother
            exact ⟨hlower.trans hbound, rfl⟩
          | inside h => exact hinside u h
      intro t
      induction t using TypeExpr.inductionOn with
      | h t ih =>
        intro hname
        refine hnamed ((t.loneName?.map rank).getD 0) t (fun u hu => ih u hu fun name h => ?_)
          fun name h => ⟨?_, by rw [h]; rfl⟩
        · exact hname name (TypeExpr.loneNames_subset_of_inside hu h)
        · exact hname name (TypeExpr.mem_loneNames.mpr ⟨t, t.self_mem_parts, h⟩)
  have hwell : WellFounded (Function.swap index.LeadsTo) := by
    refine ⟨fun t => hacc ((t.loneNames.map rank).sum + 1) t fun name hname => ?_⟩
    exact Nat.lt_succ_of_le (List.le_sum_of_mem (List.mem_map_of_mem hname))
  intro t hcycle
  exact hwell.transGen.irrefl.irrefl t (Relation.transGen_swap.mpr hcycle)

end Index

end RouteContract.Source
