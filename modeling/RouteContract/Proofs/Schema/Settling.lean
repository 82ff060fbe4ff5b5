import Mathlib.Data.Set.Finite.Lattice
import Mathlib.Dynamics.PeriodicPts.Lemmas
import RouteContract.Proofs.Schema.Description

/-!
Where repeated expansion settles. One expansion follows the chain of aliases and renaming imports
for nine steps, and a description expands a type again and again until its path no longer changes.
A chain that ends is followed to its end, however long it is. A chain that does not end runs into a
cycle, since an index has finitely many names, and nine steps at a time come to rest on a cycle only
if they lead around it to where they started: if its length divides nine. On any other cycle the
path changes in every round and the description is endless.
-/

namespace RouteContract.Source.Index

open Function (IsPeriodicPt minimalPeriod)

variable {index : Index} {t u v : TypeExpr} {k m n p q : Nat}

/-- What an alias or a renaming import makes of a type in a single step. -/
def next? (index : Index) (t : TypeExpr) : Option TypeExpr :=
  match index.step t with
  | .stop => none
  | .type target => some target
  | .rename old => some (renamed old t)

/-- A single step along a chain; behind its end there is nothing. -/
def advance (index : Index) (t : Option TypeExpr) : Option TypeExpr := t.bind index.next?

/-- The chain from `t` has `k` steps and ends at `u`. -/
def ChainEnds (index : Index) (t : TypeExpr) (k : Nat) (u : TypeExpr) : Prop :=
  index.advance^[k] (some t) = some u ∧ index.next? u = none

/-- The chain from `t` ends in a cycle of `p` types. -/
def EndsInCycle (index : Index) (t : TypeExpr) (p : Nat) : Prop :=
  0 < p ∧ ∃ m u, index.advance^[m] (some t) = some u ∧ minimalPeriod index.advance (some u) = p

theorem next?_eq_none_iff : index.next? t = none ↔ index.step t = .stop := by
  rw [next?]
  split <;> simp_all

theorem leadsTo_of_next? (h : index.next? t = some u) : index.LeadsTo t u := by
  rw [next?] at h
  split at h
  · cases h
  · next hstep => exact Option.some.inj h ▸ .target hstep
  · next hstep => exact Option.some.inj h ▸ .rename hstep

theorem iterate_none (index : Index) (n : Nat) : index.advance^[n] none = none :=
  Function.iterate_fixed rfl n

theorem iterate_eq_none_of_le {start : Option TypeExpr} (hle : m ≤ n)
    (h : index.advance^[m] start = none) : index.advance^[n] start = none := by
  obtain ⟨d, rfl⟩ := Nat.exists_eq_add_of_le' hle
  rw [Function.iterate_add_apply, h, iterate_none]

/-- A chain has a type after any number of steps, or it has ended before. -/
theorem chain_cases (index : Index) (t : TypeExpr) (n : Nat) :
    (∃ u, index.advance^[n] (some t) = some u) ∨ ∃ k < n, ∃ u, index.ChainEnds t k u := by
  induction n with
  | zero => exact Or.inl ⟨t, rfl⟩
  | succ n ih =>
    rcases ih with ⟨u, hu⟩ | ⟨k, hk, u, hends⟩
    · cases hnext : index.next? u with
      | none => exact Or.inr ⟨n, Nat.lt_succ_self n, u, hu, hnext⟩
      | some v =>
        refine Or.inl ⟨v, ?_⟩
        rw [Function.iterate_succ_apply', hu]
        exact hnext
    · exact Or.inr ⟨k, Nat.lt_succ_of_lt hk, u, hends⟩

theorem ChainEnds.iterate_eq_none_iff (h : index.ChainEnds t k u) :
    index.advance^[n] (some t) = none ↔ k < n := by
  constructor
  · intro hnone
    by_contra hle
    have hlast := iterate_eq_none_of_le (Nat.le_of_not_lt hle) hnone
    rw [h.1] at hlast
    cases hlast
  · intro hlt
    refine iterate_eq_none_of_le hlt ?_
    rw [Function.iterate_succ_apply', h.1]
    exact h.2

/-- A chain ends only once. -/
theorem ChainEnds.unique (h : index.ChainEnds t k u) (h' : index.ChainEnds t m v) :
    k = m ∧ u = v := by
  have hle {j l : Nat} {x y : TypeExpr} (hx : index.ChainEnds t j x)
      (hy : index.ChainEnds t l y) : j ≤ l :=
    Nat.lt_succ_iff.mp (hx.iterate_eq_none_iff.mp (hy.iterate_eq_none_iff.mpr (Nat.lt_succ_self l)))
  obtain rfl := Nat.le_antisymm (hle h h') (hle h' h)
  exact ⟨rfl, Option.some.inj (h.1.symm.trans h'.1)⟩

/-- A cycle is never left. -/
theorem exists_of_periodic (hp : 0 < p) (h : IsPeriodicPt index.advance p (some u)) (n : Nat) :
    ∃ v, index.advance^[n] (some u) = some v := by
  cases hn : index.advance^[n] (some u) with
  | some v => exact ⟨v, rfl⟩
  | none =>
    have hnone := iterate_eq_none_of_le (Nat.le_mul_of_pos_right n hp) hn
    have hback : index.advance^[n * p] (some u) = some u := h.const_mul n
    rw [hnone] at hback
    cases hback

theorem EndsInCycle.periodic (h : index.EndsInCycle t p) :
    ∃ m u, index.advance^[m] (some t) = some u ∧ IsPeriodicPt index.advance p (some u) := by
  obtain ⟨-, m, u, hu, rfl⟩ := h
  exact ⟨m, u, hu, Function.isPeriodicPt_minimalPeriod _ _⟩

/-- Wherever a chain comes back to itself after `n` steps, it ends in a cycle, and `n` is a number
of times around. -/
theorem endsInCycle_of_periodic (hu : index.advance^[m] (some t) = some u) (hn : 0 < n)
    (h : IsPeriodicPt index.advance n (some u)) : ∃ p, index.EndsInCycle t p ∧ p ∣ n :=
  ⟨_, ⟨h.minimalPeriod_pos hn, m, u, hu, rfl⟩, h.minimalPeriod_dvd⟩

theorem EndsInCycle.not_chainEnds (hcycle : index.EndsInCycle t p) :
    ¬ index.ChainEnds t k u := by
  intro hends
  obtain ⟨m, v, hv, hperiodic⟩ := hcycle.periodic
  obtain ⟨w, hw⟩ := exists_of_periodic hcycle.1 hperiodic (k + 1)
  have hnone : index.advance^[k + 1 + m] (some t) = none :=
    hends.iterate_eq_none_iff.mpr (by omega)
  rw [Function.iterate_add_apply, hv, hw] at hnone
  cases hnone

/-- A chain ends in one cycle only: far enough along the chain lies a type of both. -/
theorem EndsInCycle.unique (hp : index.EndsInCycle t p) (hq : index.EndsInCycle t q) : p = q := by
  have hperiod {r : Nat} (hr : index.EndsInCycle t r) :
      ∃ m, ∀ n, minimalPeriod index.advance (index.advance^[n + m] (some t)) = r := by
    obtain ⟨hpos, m, u, hu, rfl⟩ := hr
    refine ⟨m, fun n => ?_⟩
    rw [Function.iterate_add_apply, hu]
    have hmem := Function.minimalPeriod_pos_iff_mem_periodicPts.mp hpos
    exact Function.minimalPeriod_apply_iterate hmem n
  obtain ⟨a, ha⟩ := hperiod hp
  obtain ⟨b, hb⟩ := hperiod hq
  rw [← ha b, ← hb a, Nat.add_comm]

theorem mem_within_of_iterate (h : index.advance^[n] (some t) = some u) :
    u ∈ index.within t := by
  induction n generalizing u with
  | zero =>
    cases h
    exact index.self_mem_within t
  | succ n ih =>
    rw [Function.iterate_succ_apply', advance, Option.bind_eq_some_iff] at h
    obtain ⟨v, hv, hnext⟩ := h
    exact mem_within_of_leadsTo (ih hv) (leadsTo_of_next? hnext)

/-- There is no third way: among finitely many types, a chain that does not end comes back to
one. -/
theorem chainEnds_or_endsInCycle (index : Index) (t : TypeExpr) :
    (∃ k u, index.ChainEnds t k u) ∨ ∃ p, index.EndsInCycle t p := by
  have hmet (n : Nat) :
      index.advance^[n] (some t) ∈ insert none (some '' {u | u ∈ index.within t}) := by
    cases h : index.advance^[n] (some t) with
    | none => exact Set.mem_insert _ _
    | some u => exact Set.mem_insert_of_mem _ ⟨u, mem_within_of_iterate h, rfl⟩
  have hfinite := ((index.within t).finite_toSet.image some).insert none
  obtain ⟨m, n, hlt, hsame⟩ := Set.Finite.exists_lt_map_eq_of_forall_mem hmet hfinite
  rcases index.chain_cases t m with ⟨u, hu⟩ | ⟨k, -, hends⟩
  · have hperiodic : IsPeriodicPt index.advance (n - m) (some u) := by
      change index.advance^[n - m] (some u) = some u
      rw [← hu, ← Function.iterate_add_apply, Nat.sub_add_cancel hlt.le]
      exact hsame.symm
    obtain ⟨p, hcycle, -⟩ := endsInCycle_of_periodic hu (Nat.sub_pos_of_lt hlt) hperiodic
    exact Or.inr ⟨p, hcycle⟩
  · exact Or.inl ⟨k, hends⟩

/-- Expands a type again and again. -/
def rounds (index : Index) : Nat → TypeExpr → Except Breakdown TypeExpr
  | 0, t => .ok t
  | n + 1, t => do index.rounds n (← index.expand t)

/-- After `n` rounds the expansions of `t` have come to `u`, which they no longer change. -/
def SettledAfter (index : Index) (t : TypeExpr) (n : Nat) (u : TypeExpr) : Prop :=
  index.rounds n t = .ok u ∧ index.expand u = .ok u

theorem expandWithin_add (index : Index) (m n : Nat) (t : TypeExpr) :
    index.expandWithin (m + n) t = index.expandWithin m t >>= index.expandWithin n := by
  induction m generalizing t with
  | zero => rw [Nat.zero_add]; rfl
  | succ m ih =>
    rw [Nat.succ_add, expandWithin, expandWithin]
    cases hstep : index.step t with
    | stop => exact (expandWithin_of_stop hstep n).symm
    | type target => exact ih target
    | rename old =>
      cases hraw : isRawName old with
      | false => simpa [hraw] using ih (renamed old t)
      | true => simp [hraw]; rfl

theorem rounds_eq (index : Index) (n : Nat) (t : TypeExpr) :
    index.rounds n t = index.expandWithin (9 * n) t := by
  induction n generalizing t with
  | zero => rfl
  | succ n ih =>
    rw [rounds, Nat.mul_succ, Nat.add_comm, expandWithin_add]
    exact bind_congr fun u => ih u

theorem rounds_succ (index : Index) (n : Nat) (t : TypeExpr) :
    index.rounds (n + 1) t = index.rounds n t >>= index.expand := by
  rw [rounds_eq, Nat.mul_succ, expandWithin_add, rounds_eq]
  rfl

section Renames

variable (hraw : ∀ name old, index.renames.lookup name = some old → isRawName old = false)
include hraw

theorem follows_of_next? (h : index.next? t = some u) : index.Follows t u := by
  rw [next?] at h
  split at h
  · cases h
  · next hstep => exact Option.some.inj h ▸ .target hstep
  · next old hstep =>
    obtain ⟨name, -, hlookup⟩ := lookup_of_step_rename hstep
    exact Option.some.inj h ▸ .rename hstep (hraw name old hlookup)

/-- What a number of steps leads to is left to the steps behind them. -/
theorem expandWithin_of_iterate (h : index.advance^[m] (some t) = some u) (n : Nat) :
    index.expandWithin (m + n) t = index.expandWithin n u := by
  induction m generalizing t with
  | zero =>
    cases h
    rw [Nat.zero_add]
  | succ m ih =>
    rw [Function.iterate_succ_apply] at h
    cases hnext : index.next? t with
    | none =>
      rw [advance, Option.bind_some, hnext, iterate_none] at h
      cases h
    | some v =>
      rw [advance, Option.bind_some, hnext] at h
      rw [Nat.succ_add, expandWithin_of_follows (follows_of_next? hraw hnext), ih h]

theorem expandWithin_of_chainEnds (h : index.ChainEnds t k u) (hle : k ≤ n) :
    index.expandWithin n t = .ok u := by
  obtain ⟨d, rfl⟩ := Nat.exists_eq_add_of_le hle
  rw [expandWithin_of_iterate hraw h.1, expandWithin_of_stop (next?_eq_none_iff.mp h.2)]

/-- An expansion takes as many steps as it may, unless the chain ends before. -/
theorem expandWithin_eq_ok_iff : index.expandWithin n t = .ok u ↔
    index.advance^[n] (some t) = some u ∨ ∃ k < n, index.ChainEnds t k u := by
  constructor
  · intro h
    rcases index.chain_cases t n with ⟨v, hv⟩ | ⟨k, hk, v, hends⟩
    · rw [← Nat.add_zero n, expandWithin_of_iterate hraw hv] at h
      cases h
      exact Or.inl hv
    · rw [expandWithin_of_chainEnds hraw hends hk.le] at h
      cases h
      exact Or.inr ⟨k, hk, hends⟩
  · rintro (h | ⟨k, hk, hends⟩)
    · rw [← Nat.add_zero n, expandWithin_of_iterate hraw h]
      rfl
    · exact expandWithin_of_chainEnds hraw hends hk.le

theorem exists_expandWithin (n : Nat) (t : TypeExpr) :
    ∃ u, index.expandWithin n t = .ok u := by
  rcases index.chain_cases t n with ⟨u, hu⟩ | ⟨k, hk, u, hends⟩
  · exact ⟨u, (expandWithin_eq_ok_iff hraw).mpr (Or.inl hu)⟩
  · exact ⟨u, (expandWithin_eq_ok_iff hraw).mpr (Or.inr ⟨k, hk, hends⟩)⟩

/-- An expansion changes nothing at the end of a chain, and where nine steps lead back. -/
theorem expand_eq_self_iff :
    index.expand u = .ok u ↔ index.next? u = none ∨ IsPeriodicPt index.advance 9 (some u) := by
  rw [expand, expansionSteps, expandWithin_eq_ok_iff hraw]
  constructor
  · rintro (hback | ⟨k, -, hends⟩)
    · exact Or.inr hback
    · exact Or.inl hends.2
  · rintro (hnext | hback)
    · exact Or.inr ⟨0, by decide, rfl, hnext⟩
    · exact Or.inl hback

/-- Rounds settle at the end of a chain, for which they have had the steps, or on a cycle. -/
theorem SettledAfter.cases (h : index.SettledAfter t n u) :
    (∃ k ≤ 9 * n, index.ChainEnds t k u) ∨ ∃ p, index.EndsInCycle t p ∧ p ∣ 9 := by
  obtain ⟨hu, hself⟩ := h
  rw [rounds_eq] at hu
  rcases (expandWithin_eq_ok_iff hraw).mp hu with hu | ⟨k, hk, hends⟩
  · rcases (expand_eq_self_iff hraw).mp hself with hnext | hback
    · exact Or.inl ⟨9 * n, le_rfl, hu, hnext⟩
    · exact Or.inr (endsInCycle_of_periodic hu (by decide) hback)
  · exact Or.inl ⟨k, hk.le, hends⟩

theorem ChainEnds.settledAfter_iff (h : index.ChainEnds t k u) :
    index.SettledAfter t n v ↔ k ≤ 9 * n ∧ v = u := by
  constructor
  · intro hsettled
    rcases hsettled.cases hraw with ⟨j, hj, hends⟩ | ⟨p, hcycle, -⟩
    · obtain ⟨rfl, rfl⟩ := hends.unique h
      exact ⟨hj, rfl⟩
    · exact absurd h hcycle.not_chainEnds
  · rintro ⟨hle, rfl⟩
    rw [SettledAfter, rounds_eq]
    exact ⟨expandWithin_of_chainEnds hraw h hle, (expand_eq_self_iff hraw).mpr (Or.inl h.2)⟩

theorem exists_settledAfter_iff : (∃ n u, index.SettledAfter t n u) ↔
    (∃ k u, index.ChainEnds t k u) ∨ ∃ p, index.EndsInCycle t p ∧ p ∣ 9 := by
  constructor
  · rintro ⟨n, u, hsettled⟩
    rcases hsettled.cases hraw with ⟨k, -, hends⟩ | hcycle
    · exact Or.inl ⟨k, u, hends⟩
    · exact Or.inr hcycle
  · rintro (⟨k, u, hends⟩ | ⟨p, hcycle, hdvd⟩)
    · exact ⟨k, u, (hends.settledAfter_iff hraw).mpr ⟨by omega, rfl⟩⟩
    · -- As many rounds as there are steps before the cycle lead to some place on it.
      obtain ⟨m, u, hu, hperiodic⟩ := hcycle.periodic
      obtain ⟨v, hv⟩ := exists_of_periodic hcycle.1 hperiodic (8 * m)
      have hrounds : index.advance^[9 * m] (some t) = some v := by
        rw [show 9 * m = 8 * m + m by omega, Function.iterate_add_apply, hu, hv]
      have hback : IsPeriodicPt index.advance 9 (some v) :=
        hv ▸ (hperiodic.trans_dvd hdvd).apply_iterate (8 * m)
      refine ⟨m, v, ?_, (expand_eq_self_iff hraw).mpr (Or.inr hback)⟩
      rw [rounds_eq, expandWithin_eq_ok_iff hraw]
      exact Or.inl hrounds

end Renames

/-- The arguments of a name are of no account on the way along a chain: they are kept, or an alias
has replaced them. -/
theorem expandWithin_arguments (index : Index) (n : Nat) (lead : Lead) (name : String)
    (applied : Bool) :
    (∃ result, ∀ arguments, index.expandWithin n (.named lead name applied arguments) = result) ∨
      ∃ name', ∀ arguments, index.expandWithin n (.named lead name applied arguments) =
        .ok (.named lead name' applied arguments) := by
  induction n generalizing name with
  | zero => exact Or.inr ⟨name, fun _ => rfl⟩
  | succ n ih =>
    have hstep (arguments : List TypeExpr) :
        index.step (.named lead name applied arguments) =
          index.step (.named lead name applied []) := rfl
    simp only [expandWithin, hstep]
    cases index.step (.named lead name applied []) with
    | stop => exact Or.inr ⟨name, fun _ => rfl⟩
    | type target => exact Or.inl ⟨_, fun _ => rfl⟩
    | rename old =>
      cases hraw : isRawName old with
      | true => exact Or.inl ⟨.error (.rawName old), fun _ => by simp [hraw]⟩
      | false => simpa [hraw, renamed] using ih old

/-- A path that an expansion keeps, or no path at all, is not expanded any further. -/
theorem expand_of_onward?_eq_none (hexpand : index.expand u = .ok v) (h : onward? u v = none) :
    index.expand v = .ok v := by
  by_cases hv : index.step v = .stop
  · exact expandWithin_of_stop hv _
  by_cases hu : index.step u = .stop
  · rw [expand, expandWithin_of_stop hu] at hexpand
    cases hexpand
    exact absurd hu hv
  cases v with
  | named lead' name' applied' arguments' =>
    cases u with
    | named lead name applied arguments =>
      rw [onward?] at h
      split at h
      · next hsame =>
        simp only [samePath, Bool.and_eq_true, beq_iff_eq] at hsame
        obtain ⟨⟨⟨hrooted, hnames⟩, rfl⟩, rfl⟩ := hsame
        have hlead : lead = lead' := by
          obtain ⟨qualified, rooted, names⟩ := lead
          obtain ⟨qualified', rooted', names'⟩ := lead'
          simp_all [step]
        subst hlead
        rcases index.expandWithin_arguments expansionSteps lead name applied with
          ⟨result, hresult⟩ | ⟨name', hname⟩
        · rw [expand, hresult] at hexpand ⊢
          exact hexpand
        · rw [expand, hname] at hexpand
          cases hexpand
          exact hname _
      · cases h
    | _ => exact absurd rfl hu
  | _ => exact absurd rfl hv

/-- The expansions of `t` change the path in the round after `n`, so that a description goes on with
the new path. -/
def PathChanges (index : Index) (t : TypeExpr) (n : Nat) : Prop :=
  ∃ u v, index.rounds n t = .ok u ∧ index.expand u = .ok v ∧ onward? u v = some v

/-- A description that goes on with another path is the description of that path. -/
theorem describeBy_of_onward? {inner : TypeExpr → Except Breakdown (Descriptor × Bool)}
    (hexpand : index.expand u = .ok v) (h : onward? u v = some v) :
    index.describeBy inner u = inner v := by
  cases u with
  | named lead name applied arguments =>
    simp only [describeBy, hexpand, bind, Except.bind, h]
  | _ => exact absurd (Except.ok.inj hexpand) (onward?_eq_some h).2

/-- As long as the path changes, the description is that of the type after the next round. -/
theorem describe_of_pathChanges (hu : index.rounds n t = .ok u)
    (h : ∀ m < n, index.PathChanges t m) : index.describe t = index.describe u := by
  induction n generalizing u with
  | zero =>
    cases hu
    rfl
  | succ n ih =>
    obtain ⟨v, w, hv, hexpand, honward⟩ := h n (Nat.lt_succ_self n)
    rw [rounds_succ, hv] at hu
    have hw : index.expand v = .ok u := hu
    rw [hexpand] at hw
    cases hw
    rw [ih hv fun m hm => h m (Nat.lt_succ_of_lt hm), describe_eq _ v,
      describeBy_of_onward? hexpand honward]

/-- A description whose path changes in every round never ends. -/
theorem describe_endless (h : ∀ n, index.PathChanges t n) :
    index.describe t = .error .endless := by
  have hwithin (m : Nat) : index.describeWithin m t = .error .endless := by
    induction m generalizing t with
    | zero => rfl
    | succ m ih =>
      obtain ⟨u, v, hu, hexpand, honward⟩ := h 0
      cases hu
      rw [describeWithin_succ, describeBy_of_onward? hexpand honward]
      refine ih fun n => ?_
      obtain ⟨u, w, hu, hrest⟩ := h (n + 1)
      rw [rounds, hexpand] at hu
      exact ⟨u, w, hu, hrest⟩
  exact hwithin _

theorem pathChanges_iff
    (hraw : ∀ name old, index.renames.lookup name = some old → isRawName old = false) :
    (∀ n, index.PathChanges t n) ↔ ¬ ∃ n u, index.SettledAfter t n u := by
  constructor
  · rintro hchanges ⟨n, u, hu, hself⟩
    obtain ⟨v, w, hv, hexpand, honward⟩ := hchanges n
    rw [hu] at hv
    cases hv
    rw [hself] at hexpand
    cases hexpand
    exact (onward?_eq_some honward).2 rfl
  · intro hunsettled n
    obtain ⟨u, hu⟩ := exists_expandWithin hraw (9 * n) t
    rw [← rounds_eq] at hu
    obtain ⟨v, hv⟩ := exists_expandWithin hraw expansionSteps u
    refine ⟨u, v, hu, hv, ?_⟩
    cases honward : onward? u v with
    | none =>
      refine absurd ⟨n + 1, v, ?_, expand_of_onward?_eq_none hv honward⟩ hunsettled
      rw [rounds_succ, hu]
      exact hv
    | some w => rw [(onward?_eq_some honward).1]

/-- The rounds never settle exactly where the chain ends in a cycle that nine steps do not lead
around. -/
theorem not_exists_settledAfter_iff
    (hraw : ∀ name old, index.renames.lookup name = some old → isRawName old = false) :
    (¬ ∃ n u, index.SettledAfter t n u) ↔ ∃ p, index.EndsInCycle t p ∧ ¬ p ∣ 9 := by
  rw [exists_settledAfter_iff hraw]
  constructor
  · intro hneither
    rcases index.chainEnds_or_endsInCycle t with hends | ⟨p, hcycle⟩
    · exact absurd (Or.inl hends) hneither
    · exact ⟨p, hcycle, fun hdvd => hneither (Or.inr ⟨p, hcycle, hdvd⟩)⟩
  · rintro ⟨p, hcycle, hdvd⟩ (⟨k, u, hends⟩ | ⟨q, hother, hdvd'⟩)
    · exact hcycle.not_chainEnds hends
    · exact hdvd (hcycle.unique hother ▸ hdvd')

/-- Where imports rename no raw names, the expansions of a type, one after the other, settle if and
only if the chain of single steps from it ends, or ends in a cycle whose length divides nine. They
settle at the end of a chain of `k` steps, and nowhere else on it, after the least number of rounds
that have room for `k` steps. A description follows the rounds as long as the path changes. It
changes in every round exactly if the rounds do not settle, which is so on the cycles of any other
length, and the description is then endless. -/
theorem settles_iff_cycle_dvd_nine (index : Index)
    (hraw : ∀ name old, index.renames.lookup name = some old → isRawName old = false)
    (t : TypeExpr) :
    ((∃ n u, index.SettledAfter t n u) ↔
      (∃ k u, index.ChainEnds t k u) ∨ ∃ p, index.EndsInCycle t p ∧ p ∣ 9) ∧
    (∀ k u, index.ChainEnds t k u →
      (∀ n v, index.SettledAfter t n v → v = u) ∧
      ∀ n, IsLeast {n | k ≤ 9 * n} n → IsLeast {n | index.SettledAfter t n u} n) ∧
    (∀ n u, index.rounds n t = .ok u → (∀ m < n, index.PathChanges t m) →
      index.describe t = index.describe u) ∧
    ((∀ n, index.PathChanges t n) ↔ ¬ ∃ n u, index.SettledAfter t n u) ∧
    ((∀ n, index.PathChanges t n) ↔ ∃ p, index.EndsInCycle t p ∧ ¬ p ∣ 9) ∧
    ((∀ n, index.PathChanges t n) → index.describe t = .error .endless) := by
  refine ⟨exists_settledAfter_iff hraw, fun k u hends => ⟨fun n v hsettled => ?_, fun n hn => ?_⟩,
    fun n u => describe_of_pathChanges, pathChanges_iff hraw, ?_, describe_endless⟩
  · exact ((hends.settledAfter_iff hraw).mp hsettled).2
  · have hrounds : {n | index.SettledAfter t n u} = {n | k ≤ 9 * n} := by
      ext n
      simp [hends.settledAfter_iff hraw]
    rwa [hrounds]
  · rw [pathChanges_iff hraw, not_exists_settledAfter_iff hraw]

/-- A chain of eleven steps takes two rounds; three names that stand for each other in a circle come
to rest, and two names that imports in different modules exchange do not. -/
theorem settles_chain_circle_exchange :
    let names := ["A", "B", "C", "D", "E", "F", "G", "H", "I", "J", "K"]
    let chain := (names.zip names.tail).map fun (name, target) =>
      Code.typeAlias name (.ofName target) []
    let index := ofFiles [{ path := "lib.rs", items := chain ++
      [.imports [("K", "L")] [], .typeAlias "Draft" (.ofName "Review") [],
        .imports [("Review", "Signed")] [], .typeAlias "Signed" (.ofName "Draft") [],
        .module [] [.imports [("Left", "Right")] []],
        .module [] [.imports [("Right", "Left")] []]] }]
    (∀ name old, index.renames.lookup name = some old → isRawName old = false) ∧
    index.ChainEnds (.ofName "A") 11 (.ofName "L") ∧ IsLeast {n | 11 ≤ 9 * n} 2 ∧
    IsLeast {n | index.SettledAfter (.ofName "A") n (.ofName "L")} 2 ∧
    index.EndsInCycle (.ofName "Draft") 3 ∧
    (∃ n u, index.SettledAfter (.ofName "Draft") n u) ∧
    index.EndsInCycle (.ofName "Left") 2 ∧
    (¬ ∃ n u, index.SettledAfter (.ofName "Left") n u) ∧
    index.describe (.ofName "Left") = .error .endless := by
  intro names chain index
  have hraw (name old : String) (h : index.renames.lookup name = some old) :
      isRawName old = false := by
    have hentries : ∀ entry ∈ index.renames, isRawName entry.2 = false := by decide +kernel
    exact hentries _ (Table.mem_of_lookup h)
  have hends : index.ChainEnds (.ofName "A") 11 (.ofName "L") := ⟨by rfl, by rfl⟩
  have hleast : IsLeast {n | 11 ≤ 9 * n} 2 :=
    ⟨by decide, fun n (hn : 11 ≤ 9 * n) => by omega⟩
  have hcircle : index.EndsInCycle (.ofName "Draft") 3 := by
    refine ⟨by decide, 0, _, rfl, Function.minimalPeriod_eq_prime (by rfl) fun hfixed => ?_⟩
    have hstep : index.advance (some (.ofName "Draft")) = some (.ofName "Review") := by rfl
    exact absurd (hstep.symm.trans hfixed) (by simp [TypeExpr.ofName])
  have hexchange : index.EndsInCycle (.ofName "Left") 2 := by
    refine ⟨by decide, 0, _, rfl, Function.minimalPeriod_eq_prime (by rfl) fun hfixed => ?_⟩
    have hstep : index.advance (some (.ofName "Left")) = some (.ofName "Right") := by rfl
    exact absurd (hstep.symm.trans hfixed) (by simp [TypeExpr.ofName])
  obtain ⟨-, harrives, -⟩ := settles_iff_cycle_dvd_nine index hraw (.ofName "A")
  obtain ⟨hsettles, -⟩ := settles_iff_cycle_dvd_nine index hraw (.ofName "Draft")
  obtain ⟨-, -, -, hunsettled, hcycle, hendless⟩ :=
    settles_iff_cycle_dvd_nine index hraw (.ofName "Left")
  have hchanges := hcycle.mpr ⟨2, hexchange, by decide⟩
  exact ⟨hraw, hends, hleast, (harrives 11 _ hends).2 2 hleast, hcircle,
    hsettles.mpr (Or.inr ⟨3, hcircle, by decide⟩), hexchange, hunsettled.mp hchanges,
    hendless hchanges⟩

end RouteContract.Source.Index
