import RouteContract.Proofs.Except
import RouteContract.Proofs.Source.Acyclic
import RouteContract.Schema.Field

/-!
Descriptions of types. There are fewer steps in a description than types that can be met, unless it
never ends: a description satisfies its equation as if the steps were not bounded, wherever aliases
lead. Where none leads back to itself, a description fails only where an import renames a raw name.
A name that stands for another is then described like it, however long the way, as long as the way
leads through paths only. A name that stands for a type of any other form is described as if it were
no alias.
-/

namespace RouteContract

namespace Descriptor

open Source

/-- The type that a role looks into. -/
def Role.inner? : Role → Option TypeExpr
  | .optional t | .transparent t | .collection t => some t
  | .object | .plain => none

theorem mem_of_inner?_role {lead : Lead} {name : String} {arguments : List TypeExpr} {t : TypeExpr}
    (h : (role lead name arguments).inner? = some t) : t ∈ arguments := by
  cases arguments with
  | nil =>
    rw [role] at h
    split at h <;> cases h
  | cons head rest =>
    rw [role] at h
    split_ifs at h <;> cases h <;> exact List.mem_cons_self

end Descriptor

/-- A path as it is written: where it has no angle brackets, it has no arguments. -/
def Source.TypeExpr.isPath : Source.TypeExpr → Bool
  | .named _ _ applied arguments => applied || arguments.isEmpty
  | _ => false

namespace Source.Index

open Relation (TransGen ReflTransGen)

variable {index : Index} {t u v : TypeExpr} {n m : Nat} {b : Breakdown}

/-- A single step from a name to what it stands for. -/
inductive Follows (index : Index) : TypeExpr → TypeExpr → Prop
  | target {t target : TypeExpr} (h : index.step t = .type target) : Follows index t target
  | rename {t : TypeExpr} {old : String} (h : index.step t = .rename old)
      (hraw : isRawName old = false) : Follows index t (renamed old t)

theorem Follows.leadsTo (h : index.Follows t u) : index.LeadsTo t u := by
  cases h with
  | target h => exact .target h
  | rename h => exact .rename h

theorem expandWithin_of_follows (h : index.Follows t u) (n : Nat) :
    index.expandWithin (n + 1) t = index.expandWithin n u := by
  cases h with
  | target h => rw [expandWithin, h]
  | rename h hraw => rw [expandWithin, h]; simp [hraw]

theorem expandWithin_of_stop (h : index.step t = .stop) (n : Nat) :
    index.expandWithin n t = .ok t := by
  cases n with
  | zero => rfl
  | succ n => rw [expandWithin, h]

/-- An expansion follows single steps, or it meets a raw name. -/
theorem expandWithin_cases (index : Index) (n : Nat) (t : TypeExpr) :
    (∃ u, index.expandWithin n t = .ok u ∧ ReflTransGen index.Follows t u) ∨
      ∃ entry ∈ index.renames, isRawName entry.2 ∧
        index.expandWithin n t = .error (.rawName entry.2) := by
  induction n generalizing t with
  | zero => exact Or.inl ⟨t, rfl, .refl⟩
  | succ n ih =>
    have hfollow (u : TypeExpr) (h : index.Follows t u) :
        (∃ v, index.expandWithin (n + 1) t = .ok v ∧ ReflTransGen index.Follows t v) ∨
          ∃ entry ∈ index.renames, isRawName entry.2 ∧
            index.expandWithin (n + 1) t = .error (.rawName entry.2) := by
      rw [expandWithin_of_follows h]
      rcases ih u with ⟨v, hv, hway⟩ | hraw
      · exact Or.inl ⟨v, hv, hway.head h⟩
      · exact Or.inr hraw
    cases hstep : index.step t with
    | stop => exact Or.inl ⟨t, expandWithin_of_stop hstep _, .refl⟩
    | type target => exact hfollow target (.target hstep)
    | rename old =>
      cases hraw : isRawName old with
      | false => exact hfollow _ (.rename hstep hraw)
      | true =>
        obtain ⟨name, -, hentry⟩ := exists_of_step_rename hstep
        exact Or.inr ⟨_, hentry, hraw, by rw [expandWithin, hstep]; simp [hraw]⟩

theorem follows_of_expand (h : index.expand t = .ok u) : ReflTransGen index.Follows t u := by
  rcases index.expandWithin_cases expansionSteps t with ⟨v, hv, hway⟩ | ⟨entry, -, -, hraw⟩
  · rw [expand, hv, Except.ok.injEq] at h
    exact h ▸ hway
  · rw [expand, hraw] at h
    cases h

theorem raw_of_expand (h : index.expand t = .error b) :
    ∃ entry ∈ index.renames, isRawName entry.2 ∧ b = .rawName entry.2 := by
  rcases index.expandWithin_cases expansionSteps t with ⟨v, hv, -⟩ | ⟨entry, hentry, hraw, herror⟩
  · rw [expand, hv] at h
    cases h
  · rw [expand, herror, Except.error.injEq] at h
    exact ⟨entry, hentry, hraw, h.symm⟩

/-- The path that an expansion has led to, unless it is the one that it started from. -/
def onward? (t : TypeExpr) : TypeExpr → Option TypeExpr
  | .named lead name applied arguments =>
    if samePath t (.named lead name applied arguments) then none
    else some (.named lead name applied arguments)
  | _ => none

/-- Describes a type, with the types that it leads to described by `inner`. -/
def describeBy (index : Index) (inner : TypeExpr → Except Breakdown (Descriptor × Bool)) :
    TypeExpr → Except Breakdown (Descriptor × Bool)
  | .reference t => inner t
  | .paren t => inner t
  | .sequence t => do return (.array (← inner t).1, false)
  | .named lead name applied arguments => do
    match onward? (.named lead name applied arguments)
        (← index.expand (.named lead name applied arguments)) with
    | some u => inner u
    | none => index.describeRole inner name (Descriptor.role lead name arguments)
  | _ => return (.object, false)

theorem describeWithin_succ (index : Index) (n : Nat) (t : TypeExpr) :
    index.describeWithin (n + 1) t = index.describeBy (index.describeWithin n) t := by
  cases t with
  | named lead name applied arguments =>
    simp only [describeWithin, describeBy]
    refine bind_congr fun u => ?_
    cases u with
    | named lead' name' applied' arguments' =>
      simp only [onward?]
      split <;> rfl
    | _ => rfl
  | _ => rfl

theorem onward?_eq_some (h : onward? t u = some v) : v = u ∧ t ≠ u := by
  cases u with
  | named lead name applied arguments =>
    rw [onward?] at h
    split at h
    · cases h
    · next hdiffers =>
      cases h
      refine ⟨rfl, ?_⟩
      rintro rfl
      exact hdiffers (by simp [samePath])
  | _ => cases h

/-- A path that an expansion has changed is one that its start leads to. -/
theorem leadsTo_of_onward? (hexpand : index.expand t = .ok u) (h : onward? t u = some v) :
    TransGen index.LeadsTo t v := by
  obtain ⟨rfl, hne⟩ := onward?_eq_some h
  have hway : ReflTransGen index.LeadsTo t v :=
    (follows_of_expand hexpand).lift id fun _ _ hstep => hstep.leadsTo
  exact (Relation.reflTransGen_iff_eq_or_transGen.mp hway).resolve_left (Ne.symm hne)

/-- A role gives a description of its own, or it needs the description of the type it looks into. -/
theorem describeRole_cases (index : Index) (name : String) (role : Descriptor.Role) :
    (∃ result, ∀ inner, index.describeRole inner name role = .ok result) ∨
      ∃ v ∈ role.inner?, ∃ complete, ∀ inner,
        index.describeRole inner name role = complete <$> inner v := by
  cases role with
  | optional t =>
    refine Or.inr ⟨t, rfl, fun d => (d.1, true), fun inner => ?_⟩
    rw [describeRole]
    cases inner t <;> rfl
  | transparent t => exact Or.inr ⟨t, rfl, id, fun inner => (id_map (inner t)).symm⟩
  | collection t =>
    refine Or.inr ⟨t, rfl, fun d => (.array d.1, false), fun inner => ?_⟩
    rw [describeRole]
    cases inner t <;> rfl
  | object => exact Or.inl ⟨_, fun _ => rfl⟩
  | plain => exact Or.inl ⟨_, fun _ => rfl⟩

/-- A description does not depend on other types, and then only an expansion can fail in it; or it
is made from the description of one type that is led to. -/
theorem describeBy_cases (index : Index) (t : TypeExpr) :
    (∃ result, (∀ b, result = .error b → index.expand t = .error b) ∧
      ∀ inner, index.describeBy inner t = result) ∨
    ∃ v, TransGen index.LeadsTo t v ∧ ∃ complete, ∀ inner,
      index.describeBy inner t = complete <$> inner v := by
  cases t with
  | reference t =>
    exact Or.inr ⟨t, .single (.inside List.mem_cons_self), id, fun inner => (id_map (inner t)).symm⟩
  | paren t =>
    exact Or.inr ⟨t, .single (.inside List.mem_cons_self), id, fun inner => (id_map (inner t)).symm⟩
  | sequence t =>
    refine Or.inr ⟨t, .single (.inside List.mem_cons_self), fun d => (.array d.1, false), ?_⟩
    intro inner
    rw [describeBy]
    cases inner t <;> rfl
  | named lead name applied arguments =>
    simp only [describeBy]
    cases hexpand : index.expand (.named lead name applied arguments) with
    | error b =>
      refine Or.inl ⟨.error b, fun b' hb => ?_, fun _ => rfl⟩
      rw [Except.error.inj hb]
    | ok u =>
      simp only [bind, Except.bind]
      cases honward : onward? (.named lead name applied arguments) u with
      | some v =>
        refine Or.inr ⟨v, leadsTo_of_onward? hexpand honward, id, fun inner => ?_⟩
        exact (id_map (inner v)).symm
      | none =>
        rcases index.describeRole_cases name (Descriptor.role lead name arguments) with
          ⟨result, hresult⟩ | ⟨v, hv, complete, hcomplete⟩
        · exact Or.inl ⟨.ok result, nofun, hresult⟩
        · refine Or.inr ⟨v, .single (.inside ?_), complete, hcomplete⟩
          exact Descriptor.mem_of_inner?_role hv
  | bounded traits => exact Or.inl ⟨.ok (.object, false), nofun, fun _ => rfl⟩
  | other => exact Or.inl ⟨.ok (.object, false), nofun, fun _ => rfl⟩

/-- A description that has ended within some steps is the same within more of them. -/
theorem describeWithin_of_le (hle : n ≤ m) (h : index.describeWithin n t ≠ .error .endless) :
    index.describeWithin m t = index.describeWithin n t := by
  induction n generalizing m t with
  | zero => exact absurd rfl h
  | succ n ih =>
    obtain ⟨m, rfl⟩ := Nat.exists_eq_add_of_le' (Nat.zero_lt_of_lt hle)
    rw [describeWithin_succ] at h ⊢
    rw [describeWithin_succ]
    rcases index.describeBy_cases t with ⟨result, -, hresult⟩ | ⟨v, -, complete, hcomplete⟩
    · rw [hresult, hresult]
    · rw [hcomplete] at h ⊢
      rw [hcomplete, ih (Nat.le_of_succ_le_succ hle)]
      intro hendless
      rw [hendless] at h
      exact h rfl

/-- The description of the type ends within `n + 1` steps but not within `n`. -/
def EndsAfter (index : Index) (n : Nat) (t : TypeExpr) : Prop :=
  index.describeWithin n t = .error .endless ∧ index.describeWithin (n + 1) t ≠ .error .endless

theorem EndsAfter.unique (hn : index.EndsAfter n t) (hm : index.EndsAfter m t) : n = m := by
  have hle {n m : Nat} (hn : index.EndsAfter n t) (hm : index.EndsAfter m t) : m ≤ n := by
    by_contra hlt
    have hsame := describeWithin_of_le (Nat.lt_of_not_le hlt) hn.2
    exact hn.2 (hsame.symm.trans hm.1)
  exact Nat.le_antisymm (hle hm hn) (hle hn hm)

/-- Behind a description of many steps stand descriptions of any fewer steps, all of them of types
that can be met. -/
theorem EndsAfter.exists_of_le (hu : u ∈ index.within t) (h : index.EndsAfter n u) (hm : m ≤ n) :
    ∃ v ∈ index.within t, index.EndsAfter m v := by
  induction n generalizing u with
  | zero => exact ⟨u, hu, Nat.le_zero.mp hm ▸ h⟩
  | succ n ih =>
    rcases Nat.le_succ_iff.mp hm with hm | rfl
    · obtain ⟨hendless, hends⟩ := h
      rw [describeWithin_succ] at hendless hends
      rcases index.describeBy_cases u with ⟨result, -, hresult⟩ | ⟨v, hv, complete, hcomplete⟩
      · rw [hresult] at hendless hends
        exact absurd hendless hends
      · rw [hcomplete] at hendless hends
        refine ih (mem_within_of_transGen hu hv) ⟨?_, fun h => hends (by rw [h]; rfl)⟩ hm
        cases hinner : index.describeWithin n v with
        | ok d =>
          rw [hinner] at hendless
          cases hendless
        | error b =>
          rw [hinner] at hendless
          exact hendless
    · exact ⟨u, hu, h⟩

/-- Descriptions of different numbers of steps are of different types, so that there are no more
steps than types that can be met. -/
theorem EndsAfter.lt_length (h : index.EndsAfter n t) : n < (index.within t).length := by
  classical
  have hmet (m : Nat) (hm : m ∈ Finset.range (n + 1)) :
      ∃ v ∈ index.within t, index.EndsAfter m v :=
    h.exists_of_le (index.self_mem_within t) (Nat.lt_succ_iff.mp (Finset.mem_range.mp hm))
  choose! type hmem hends using hmet
  have hcard : (Finset.range (n + 1)).card ≤ (index.within t).toFinset.card := by
    refine Finset.card_le_card_of_injOn type (fun m hm => ?_) fun m hm k hk heq => ?_
    · exact List.mem_toFinset.mpr (hmem m hm)
    · exact (hends m hm).unique (heq ▸ hends k hk)
  rw [Finset.card_range] at hcard
  exact hcard.trans (List.toFinset_card_le _)

theorem length_within_lt (index : Index) (t : TypeExpr) :
    (index.within t).length < index.describeSteps t := by
  rw [length_within, describeSteps]
  apply Nat.mul_lt_mul_of_le_of_lt <;> omega

/-- More steps than a description is given change nothing, wherever aliases lead. -/
theorem describeWithin_of_steps (hn : index.describeSteps t ≤ n) :
    index.describeWithin n t = index.describe t := by
  classical
  by_cases hends : ∃ k, index.describeWithin k t ≠ .error .endless
  · have hleast := Nat.find_spec hends
    have hbound : Nat.find hends ≤ index.describeSteps t := by
      cases hk : Nat.find hends with
      | zero => exact Nat.zero_le _
      | succ k =>
        have hbefore : index.describeWithin k t = .error .endless := by
          by_contra hne
          have hle := Nat.find_min' hends hne
          omega
        have hafter : index.EndsAfter k t := ⟨hbefore, hk ▸ hleast⟩
        exact hafter.lt_length.trans (index.length_within_lt t)
    rw [describe, describeWithin_of_le (hbound.trans hn) hleast, describeWithin_of_le hbound hleast]
  · push Not at hends
    rw [describe, hends, hends]

/-- The description of a type is made from the description of what it leads to. -/
theorem describe_eq (index : Index) (t : TypeExpr) :
    index.describe t = index.describeBy index.describe t := by
  have hunfold (n : Nat) (hn : index.describeSteps t ≤ n) :
      index.describe t = index.describeBy (index.describeWithin n) t := by
    rw [← describeWithin_of_steps (hn.trans (Nat.le_succ n)), describeWithin_succ]
  rcases index.describeBy_cases t with ⟨result, -, hresult⟩ | ⟨v, -, complete, hcomplete⟩
  · rw [hunfold _ le_rfl, hresult, hresult]
  · rw [hunfold _ (le_max_left _ (index.describeSteps v)), hcomplete, hcomplete,
      describeWithin_of_steps (le_max_right _ _)]

/-- Only a raw name that an import renames keeps a type from being described. -/
theorem Acyclic.raw_of_describe (hacyclic : index.Acyclic) (h : index.describe t = .error b) :
    ∃ entry ∈ index.renames, isRawName entry.2 ∧ b = .rawName entry.2 := by
  induction t using hacyclic.wellFounded.transGen.induction with
  | _ t ih =>
    rw [describe_eq] at h
    rcases index.describeBy_cases t with ⟨result, hfails, hresult⟩ | ⟨v, hv, complete, hcomplete⟩
    · rw [hresult] at h
      exact raw_of_expand (hfails b h)
    · rw [hcomplete] at h
      refine ih v (Relation.transGen_swap.mpr hv) ?_
      cases hinner : index.describe v with
      | ok d =>
        rw [hinner] at h
        cases h
      | error b' =>
        rw [hinner] at h
        exact h

theorem expandWithin_error_succ (h : index.expandWithin n t = .error b) :
    index.expandWithin (n + 1) t = .error b := by
  induction n generalizing t with
  | zero => cases h
  | succ n ih =>
    have hfollow (u : TypeExpr) (hu : index.Follows t u) :
        index.expandWithin (n + 1 + 1) t = .error b := by
      rw [expandWithin_of_follows hu] at h ⊢
      exact ih h
    cases hstep : index.step t with
    | stop =>
      rw [expandWithin, hstep] at h
      cases h
    | type target => exact hfollow target (.target hstep)
    | rename old =>
      cases hraw : isRawName old with
      | false => exact hfollow _ (.rename hstep hraw)
      | true =>
        rw [expandWithin, hstep] at h ⊢
        simpa [hraw] using h

/-- A path with arguments is only ever renamed. -/
theorem Follows.of_applied {lead : Lead} {name : String} {arguments : List TypeExpr}
    (h : ReflTransGen index.Follows (.named lead name true arguments) u) :
    ∃ name', u = .named lead name' true arguments := by
  induction h with
  | refl => exact ⟨name, rfl⟩
  | tail _ hstep ih =>
    obtain ⟨name', rfl⟩ := ih
    cases hstep with
    | target hstep =>
      rw [step] at hstep
      split at hstep
      · cases hstep
      · split at hstep
        · next hnone => cases hnone
        · split at hstep <;> cases hstep
    | rename => exact ⟨_, rfl⟩

theorem Follows.unqualified {lead : Lead} {name : String} {applied : Bool}
    {arguments : List TypeExpr} (h : index.Follows (.named lead name applied arguments) u) :
    lead.qualified = false := by
  cases hqualified : lead.qualified with
  | false => rfl
  | true => cases h <;> simp_all [step]

theorem describe_of_stop {lead : Lead} {name : String} {applied : Bool}
    {arguments : List TypeExpr}
    (h : index.step (.named lead name applied arguments) = .stop) :
    index.describe (.named lead name applied arguments) =
      index.describeRole index.describe name (Descriptor.role lead name arguments) := by
  have hexpand : index.expand (.named lead name applied arguments) =
      .ok (.named lead name applied arguments) := expandWithin_of_stop h _
  rw [describe_eq, describeBy, hexpand]
  simp [onward?, samePath, bind, Except.bind]

/-- Where a way through paths comes back to the same names, it has come to a qualified path of these
names, which is described by the same role. -/
theorem Acyclic.describe_of_samePath (hacyclic : index.Acyclic) {lead lead' : Lead}
    {name name' : String} {applied applied' : Bool} {arguments arguments' : List TypeExpr}
    (h : index.Follows (.named lead name applied arguments) u)
    (hway : ReflTransGen index.Follows u (.named lead' name' applied' arguments'))
    (hpath : TypeExpr.isPath (.named lead name applied arguments))
    (hpath' : TypeExpr.isPath (.named lead' name' applied' arguments'))
    (hsame : samePath (.named lead name applied arguments)
      (.named lead' name' applied' arguments')) :
    index.describe (.named lead' name' applied' arguments') =
      index.describeRole index.describe name (Descriptor.role lead name arguments) := by
  simp only [samePath, Bool.and_eq_true, beq_iff_eq] at hsame
  obtain ⟨⟨⟨hrooted, hnames⟩, rfl⟩, rfl⟩ := hsame
  have hne : (TypeExpr.named lead name applied arguments) ≠
      .named lead' name applied arguments' := by
    intro heq
    have hcycle := Relation.TransGen.head' h hway
    rw [← heq] at hcycle
    exact hacyclic _ (hcycle.lift id fun _ _ hstep => hstep.leadsTo)
  cases applied with
  | true =>
    obtain ⟨name', heq⟩ := Follows.of_applied (hway.head h)
    injection heq with hlead _ _ harguments
    exact absurd (by rw [hlead, harguments]) hne
  | false =>
    obtain rfl := List.isEmpty_iff.mp hpath
    obtain rfl := List.isEmpty_iff.mp hpath'
    have hqualified : lead'.qualified = true := by
      by_contra hnot
      refine hne (congrArg (TypeExpr.named · name false []) ?_)
      obtain ⟨qualified, rooted, names⟩ := lead
      obtain ⟨qualified', rooted', names'⟩ := lead'
      have hunqualified := h.unqualified
      simp_all
    have hstop : index.step (.named lead' name false []) = .stop := by simp [step, hqualified]
    rw [describe_of_stop hstop, Descriptor.role, Descriptor.role, Descriptor.isAnyValue,
      Descriptor.isAnyValue, hnames]

/-- A step through paths does not change a description. -/
theorem Acyclic.describe_of_follows (hacyclic : index.Acyclic) (h : index.Follows t u)
    (hpaths : ∀ v, ReflTransGen index.Follows t v → v.isPath) :
    index.describe t = index.describe u := by
  induction t using hacyclic.wellFounded.transGen.induction generalizing u with
  | _ t ih =>
    have hbelow (v : TypeExpr) (hway : ReflTransGen index.Follows u v) :
        index.describe u = index.describe v := by
      induction hway with
      | refl => rfl
      | @tail v w hway hstep ihv =>
        have hled : TransGen index.LeadsTo t v :=
          (Relation.TransGen.head' h hway).lift id fun _ _ hstep => hstep.leadsTo
        rw [ihv]
        refine ih v (Relation.transGen_swap.mpr hled) hstep fun x hx => hpaths x ?_
        exact (hway.head h).trans hx
    have hexpand := expandWithin_of_follows h 8
    cases t with
    | named lead name applied arguments =>
      rw [describe_eq, describeBy, expand, expansionSteps, hexpand]
      rcases index.expandWithin_cases 8 u with ⟨v, hv, hway⟩ | ⟨entry, -, -, hraw⟩
      · rw [hv, hbelow v hway]
        have hpath := hpaths v (hway.head h)
        cases v with
        | named lead' name' applied' arguments' =>
          change (match onward? _ _ with | some u => _ | none => _) = _
          rw [onward?]
          split_ifs with hsame
          · have hstart := hpaths _ .refl
            exact (hacyclic.describe_of_samePath h hway hstart hpath hsame).symm
          · rfl
        | _ => cases hpath
      · have hpath := hpaths u (.single h)
        cases u with
        | named lead' name' applied' arguments' =>
          rw [describe_eq _ (.named lead' _ _ _), describeBy, expand, expansionSteps, hraw,
            expandWithin_error_succ hraw]
          rfl
        | _ => cases hpath
    | _ => cases hpaths _ .refl

/-- Where no alias leads back to itself, an alias is described like its target, if the target and
all that it stands for are paths: the descriptions are equal, and so are the reasons for having
none. An alias of any other type is described as if it were none. -/
theorem describe_alias (hacyclic : index.Acyclic) {name : String} {target : TypeExpr}
    (halias : index.aliases.lookup name = some target) :
    ((∀ t, ReflTransGen index.Follows target t → t.isPath) →
      index.describe (.ofName name) = index.describe target) ∧
    ((∀ lead other applied arguments, target ≠ .named lead other applied arguments) →
      index.describe (.ofName name) =
        index.describeRole index.describe name (Descriptor.role {} name [])) := by
  have hstep : index.step (.ofName name) = .type target := by
    simp [step, TypeExpr.ofName, halias]
  have hfollows : index.Follows (.ofName name) target := .target hstep
  refine ⟨fun hpaths => hacyclic.describe_of_follows hfollows fun t ht => ?_, fun hother => ?_⟩
  · rcases ht.cases_head with rfl | ⟨u, hu, ht⟩
    · rfl
    · cases hu with
      | target hu =>
        rw [hstep, Step.type.injEq] at hu
        exact hpaths t (hu ▸ ht)
      | rename hu => rw [hstep] at hu; cases hu
  · have hstop : index.step target = .stop := by
      cases target with
      | named lead other applied arguments => exact absurd rfl (hother lead other applied arguments)
      | _ => rfl
    have hexpand : index.expand (.ofName name) = .ok target := by
      rw [expand, expansionSteps, expandWithin_of_follows hfollows, expandWithin, hstop]
    have honward : onward? (.ofName name) target = none := by
      cases target with
      | named lead other applied arguments => exact absurd rfl (hother lead other applied arguments)
      | _ => rfl
    rw [TypeExpr.ofName] at hexpand honward ⊢
    rw [describe_eq, describeBy, hexpand]
    change (match onward? _ target with | some u => _ | none => _) = _
    rw [honward]

/-- Where all aliases stand for paths, following a path leads to paths only. -/
theorem isPath_of_follows (haliases : ∀ entry ∈ index.aliases, entry.2.isPath) (ht : t.isPath)
    (h : ReflTransGen index.Follows t u) : u.isPath := by
  induction h with
  | refl => exact ht
  | @tail u v _ hstep ih =>
    cases hstep with
    | target hstep =>
      obtain ⟨name, -, hentry⟩ := exists_of_step_type hstep
      exact haliases _ hentry
    | rename =>
      cases u with
      | named lead name applied arguments => exact ih
      | _ => exact ih

/-- A chain of aliases, longer than one expansion, that passes a renaming import and ends in an
optional list. -/
theorem describe_alias_chain :
    let names := ["A", "B", "C", "D", "E", "F", "G", "H", "I", "J", "K"]
    let wrap (name : String) (t : TypeExpr) : TypeExpr := .named {} name true [t]
    let index : Index :=
      { aliases := names.zip (names.tail.map TypeExpr.ofName) ++
          [("L", wrap "Option" (wrap "Vec" (.ofName "Item")))]
        renames := [("K", "L")]
        builderTrait := "", builderTraits := [], builderTypes := [] }
    index.Acyclic ∧ index.aliases.lookup "A" = some (.ofName "B") ∧
    (∀ t, ReflTransGen index.Follows (.ofName "B") t → t.isPath) ∧
    index.describe (.ofName "A") = index.describe (.ofName "B") ∧
    index.describe (.ofName "B") = .ok (.array (.reference "Item"), true) := by
  intro names wrap index
  let rank (name : String) : Nat := ((names ++ ["L"]).reverse.zipIdx 1 |>.lookup name).getD 0
  have hacyclic : index.Acyclic := acyclic_of_rank rank (by decide +kernel) (by decide +kernel)
  have halias : index.aliases.lookup "A" = some (.ofName "B") := rfl
  have hpaths (t : TypeExpr) (ht : ReflTransGen index.Follows (.ofName "B") t) : t.isPath :=
    isPath_of_follows (by decide +kernel) rfl ht
  exact ⟨hacyclic, halias, hpaths, (describe_alias hacyclic halias).1 hpaths, by decide +kernel⟩

/-- Aliases of an array, of a reference and of a type in parentheses: none of them is described like
its target. -/
theorem describe_alias_of_no_path :
    let digest : TypeExpr := .sequence (.ofName "u8")
    let label : TypeExpr := .reference (.ofName "str")
    let code : TypeExpr := .paren (.ofName "u32")
    let index := ofFiles [{ path := "lib.rs", items :=
      [.typeAlias "Digest" digest [], .typeAlias "Label" label [], .typeAlias "Code" code []] }]
    index.Acyclic ∧
    index.describe (.ofName "Digest") = .ok (.reference "Digest", false) ∧
    index.describe digest = .ok (.array (.primitive .integer (some "int32")), false) ∧
    index.describe (.ofName "Label") = .ok (.reference "Label", false) ∧
    index.describe label = .ok (.primitive .string none, false) ∧
    index.describe (.ofName "Code") = .ok (.reference "Code", false) ∧
    index.describe code = .ok (.primitive .integer (some "int32"), false) := by
  intro digest label code index
  let rank (name : String) : Nat := if ["Digest", "Label", "Code"].contains name then 1 else 0
  exact ⟨acyclic_of_rank rank (by decide +kernel) (by decide +kernel), by rfl, by rfl, by rfl,
    by rfl, by rfl, by rfl⟩

end Source.Index

end RouteContract
