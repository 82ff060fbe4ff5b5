import Mathlib.Logic.Relation
import Mathlib.Tactic.Push
import RouteContract.Source.Constant

/-!
The texts that expressions stand for, given by derivations: a literal stands for its text, a path
for what the constant that it names stands for, `concat!` for the texts of its parts joined, and a
reference or an expression in parentheses for what stands inside. Attributes add no level. Folding
finds exactly the texts that have a derivation of bounded height. A derivation takes the expressions
it needs apart step by step, so that none leads through an expression that needs itself.
-/

namespace RouteContract.Source.Index

open Relation (ReflTransGen TransGen)

variable {index : Index}

/-- The constant that a path names: that of its last two names if there is one, else that of its
last name. -/
inductive NamesConstant (index : Index) : List String → Expr → Prop
  | alone {name : String} {e : Expr} (h : index.constants.lookup name = some e) :
      NamesConstant index [name] e
  | owned {before : List String} {owner name : String} {e : Expr}
      (h : index.constants.lookup (owner ++ "::" ++ name) = some e) :
      NamesConstant index (before ++ [owner, name]) e
  | unowned {before : List String} {owner name : String} {e : Expr}
      (hnone : index.constants.lookup (owner ++ "::" ++ name) = none)
      (h : index.constants.lookup name = some e) :
      NamesConstant index (before ++ [owner, name]) e

theorem constantKeys_append (before : List String) (owner name : String) :
    constantKeys (before ++ [owner, name]) = [owner ++ "::" ++ name, name] := by
  rw [constantKeys, List.reverse_append]
  rfl

theorem namesConstant_iff {names : List String} {e : Expr} :
    index.NamesConstant names e ↔ index.constantExpr? names = some e := by
  constructor
  · intro h
    cases h with
    | alone h => simp [constantExpr?, constantKeys, h]
    | owned h => simp [constantExpr?, constantKeys_append, h]
    | unowned hnone h => simp [constantExpr?, constantKeys_append, hnone, h]
  · intro h
    obtain rfl | ⟨owners, name, rfl⟩ := names.eq_nil_or_concat
    · cases h
    obtain rfl | ⟨before, owner, rfl⟩ := owners.eq_nil_or_concat
    · refine .alone ?_
      simpa [constantExpr?, constantKeys] using h
    · rw [List.concat_eq_append, List.concat_eq_append, List.append_assoc] at h ⊢
      simp only [List.cons_append, List.nil_append] at h ⊢
      rw [constantExpr?, constantKeys_append] at h
      cases howned : index.constants.lookup (owner ++ "::" ++ name) with
      | some found =>
        refine .owned (howned.trans ?_)
        simpa [howned] using h
      | none =>
        refine .unowned howned ?_
        simpa [howned] using h

theorem NamesConstant.unique {names : List String} {e e' : Expr} (h : index.NamesConstant names e)
    (h' : index.NamesConstant names e') : e' = e :=
  Option.some.inj ((namesConstant_iff.mp h').symm.trans (namesConstant_iff.mp h))

mutual

/-- A derivation that an expression stands for a text. -/
inductive Derivation (index : Index) : Expr → String → Type
  | text (s : String) : Derivation index (.literal (.text s)) s
  | char (c : Char) : Derivation index (.literal (.char c)) (String.singleton c)
  | whole (n : Nat) (suffix : String) : Derivation index (.literal (.whole n suffix)) (toString n)
  | path {names : List String} (inner : List Expr) {e : Expr} {s : String}
      (hconstant : index.NamesConstant names e) (d : Derivation index e s) :
      Derivation index (.path names inner) s
  | concat {parts : List Expr} {texts : List String} (ds : Derivations index parts texts) :
      Derivation index (.invocation "concat" (some parts)) (String.join texts)
  | reference {e : Expr} {s : String} (d : Derivation index e s) :
      Derivation index (.reference e) s
  | paren {e : Expr} {s : String} (d : Derivation index e s) : Derivation index (.paren e) s
  | marked (notes : List Expr) {e : Expr} {s : String} (d : Derivation index e s) :
      Derivation index (.marked notes e) s

/-- Derivations of the texts of some expressions, one for each. -/
inductive Derivations (index : Index) : List Expr → List String → Type
  | nil : Derivations index [] []
  | cons {e : Expr} {es : List Expr} {s : String} {texts : List String}
      (d : Derivation index e s) (ds : Derivations index es texts) :
      Derivations index (e :: es) (s :: texts)

end

mutual

/-- The number of levels of a derivation that are nested in each other. -/
def Derivation.levels {e : Expr} {s : String} : Derivation index e s → Nat
  | .text _ => 1
  | .char _ => 1
  | .whole _ _ => 1
  | .path _ _ d => d.levels + 1
  | .concat ds => ds.levels + 1
  | .reference d => d.levels + 1
  | .paren d => d.levels + 1
  | .marked _ d => d.levels

def Derivations.levels {es : List Expr} {texts : List String} : Derivations index es texts → Nat
  | .nil => 0
  | .cons d ds => max d.levels ds.levels

end

theorem foldWithin_marked (n : Nat) (notes : List Expr) (e : Expr) :
    index.foldWithin n (.marked notes e) = index.foldWithin n e := by
  cases n <;> rfl

theorem Derivation.levels_pos {e : Expr} {s : String} : (d : Derivation index e s) → 0 < d.levels
  | .text _ => Nat.zero_lt_one
  | .char _ => Nat.zero_lt_one
  | .whole _ _ => Nat.zero_lt_one
  | .path _ _ d => Nat.succ_pos d.levels
  | .concat ds => Nat.succ_pos ds.levels
  | .reference d => Nat.succ_pos d.levels
  | .paren d => Nat.succ_pos d.levels
  | .marked _ d => d.levels_pos

mutual

/-- Folding finds what is derived within as many levels. -/
theorem Derivation.foldWithin_eq {e : Expr} {s : String} :
    {n : Nat} → (d : Derivation index e s) → d.levels ≤ n → index.foldWithin n e = some s
  | 0, d, h => absurd d.levels_pos (Nat.not_lt_of_le h)
  | _ + 1, .text _, _ => rfl
  | _ + 1, .char _, _ => rfl
  | _ + 1, .whole _ _, _ => rfl
  | n + 1, .path inner hconstant d, h => by
    have htarget := d.foldWithin_eq (Nat.le_of_succ_le_succ h)
    rw [foldWithin]
    simp only [Expr.bare, namesConstant_iff.mp hconstant, Option.bind_some, htarget]
  | n + 1, .concat ds, h => by
    have hparts := ds.mapM_foldWithin_eq (Nat.le_of_succ_le_succ h)
    rw [foldWithin]
    simp only [Expr.bare, hparts, Option.map_some]
  | _ + 1, .reference d, h => d.foldWithin_eq (Nat.le_of_succ_le_succ h)
  | _ + 1, .paren d, h => d.foldWithin_eq (Nat.le_of_succ_le_succ h)
  | _ + 1, .marked notes d, h => by
    rw [foldWithin_marked]
    exact d.foldWithin_eq h

theorem Derivations.mapM_foldWithin_eq {es : List Expr} {texts : List String} {n : Nat} :
    (ds : Derivations index es texts) → ds.levels ≤ n → es.mapM (index.foldWithin n) = some texts
  | .nil, _ => rfl
  | .cons d ds, h => by
    rw [Derivations.levels, Nat.max_le] at h
    rw [List.mapM_cons, d.foldWithin_eq h.1, ds.mapM_foldWithin_eq h.2]
    rfl

end

/-- An expression behind attributes is derived like the expression itself. -/
theorem exists_of_bare {e : Expr} {s : String} (d : Derivation index e.bare s) :
    ∃ d' : Derivation index e s, d'.levels = d.levels := by
  cases e with
  | marked notes e =>
    obtain ⟨d', hlevels⟩ := exists_of_bare (e := e) d
    exact ⟨.marked notes d', hlevels⟩
  | _ => exact ⟨d, rfl⟩

/-- Where each of some expressions has a derivation within some levels, they have them together. -/
theorem exists_of_mapM {n : Nat} {es : List Expr} {texts : List String}
    (hparts : ∀ e s, index.foldWithin n e = some s → ∃ d : Derivation index e s, d.levels ≤ n)
    (h : es.mapM (index.foldWithin n) = some texts) :
    ∃ ds : Derivations index es texts, ds.levels ≤ n := by
  induction es generalizing texts with
  | nil =>
    cases h
    exact ⟨.nil, Nat.zero_le n⟩
  | cons e es ih =>
    simp only [List.mapM_cons, Option.bind_eq_bind, Option.bind_eq_some_iff] at h
    obtain ⟨s, hhead, rest, htail, heq⟩ := h
    cases heq
    obtain ⟨d, hd⟩ := hparts e s hhead
    obtain ⟨ds, hds⟩ := ih htail
    exact ⟨.cons d ds, Nat.max_le.mpr ⟨hd, hds⟩⟩

/-- What folding finds is derived within as many levels. -/
theorem exists_of_foldWithin {n : Nat} {e : Expr} {s : String}
    (h : index.foldWithin n e = some s) : ∃ d : Derivation index e s, d.levels ≤ n := by
  induction n generalizing e s with
  | zero => cases h
  | succ n ih =>
    -- Folding looks at the expression behind its attributes, which take no level.
    suffices hbare : ∃ d : Derivation index e.bare s, d.levels ≤ n + 1 by
      obtain ⟨d, hd⟩ := hbare
      obtain ⟨d', hlevels⟩ := exists_of_bare d
      exact ⟨d', hlevels ▸ hd⟩
    rw [foldWithin] at h
    split at h
    · next l hliteral =>
      rw [hliteral]
      cases l with
      | text t =>
        cases h
        exact ⟨.text _, Nat.le_add_left 1 n⟩
      | char c =>
        cases h
        exact ⟨.char _, Nat.le_add_left 1 n⟩
      | whole k suffix =>
        cases h
        exact ⟨.whole _ _, Nat.le_add_left 1 n⟩
      | _ => cases h
    · next names inner hpath =>
      rw [hpath]
      obtain ⟨target, hconstant, h⟩ := Option.bind_eq_some_iff.mp h
      obtain ⟨d, hd⟩ := ih h
      exact ⟨.path inner (namesConstant_iff.mpr hconstant) d, Nat.succ_le_succ hd⟩
    · next parts hconcat =>
      rw [hconcat]
      obtain ⟨texts, htexts, rfl⟩ := Option.map_eq_some_iff.mp h
      obtain ⟨ds, hds⟩ := exists_of_mapM (fun _ _ => ih) htexts
      exact ⟨.concat ds, Nat.succ_le_succ hds⟩
    · next target hreference =>
      rw [hreference]
      obtain ⟨d, hd⟩ := ih h
      exact ⟨.reference d, Nat.succ_le_succ hd⟩
    · next inner hparen =>
      rw [hparen]
      obtain ⟨d, hd⟩ := ih h
      exact ⟨.paren d, Nat.succ_le_succ hd⟩
    · cases h

theorem foldWithin_eq_some_iff {n : Nat} {e : Expr} {s : String} :
    index.foldWithin n e = some s ↔ ∃ d : Derivation index e s, d.levels ≤ n :=
  ⟨exists_of_foldWithin, fun ⟨d, hd⟩ => d.foldWithin_eq hd⟩

/-- What an expression stands for, however deep its derivation is. -/
def Evaluates (index : Index) (e : Expr) (s : String) : Prop := Nonempty (Derivation index e s)

theorem Evaluates.unique {e : Expr} {s t : String} (hs : index.Evaluates e s)
    (ht : index.Evaluates e t) : t = s := by
  obtain ⟨ds⟩ := hs
  obtain ⟨dt⟩ := ht
  -- Folding with the levels of the deeper derivation finds both texts.
  have hfold := ds.foldWithin_eq (Nat.le_max_left ds.levels dt.levels)
  rw [dt.foldWithin_eq (Nat.le_max_right ds.levels dt.levels)] at hfold
  exact Option.some.inj hfold

/-- The expressions whose texts the text of an expression is made of. -/
inductive Needs (index : Index) : Expr → Expr → Prop
  | constant {names : List String} {inner : List Expr} {e : Expr}
      (h : index.NamesConstant names e) : Needs index (.path names inner) e
  | part {parts : List Expr} {e : Expr} (h : e ∈ parts) :
      Needs index (.invocation "concat" (some parts)) e
  | reference {e : Expr} : Needs index (.reference e) e
  | paren {e : Expr} : Needs index (.paren e) e
  | marked {notes : List Expr} {e : Expr} : Needs index (.marked notes e) e

theorem Derivations.exists_of_mem {es : List Expr} {texts : List String}
    (ds : Derivations index es texts) {e : Expr} (h : e ∈ es) :
    ∃ s, ∃ d : Derivation index e s, sizeOf d < sizeOf ds := by
  induction es generalizing texts with
  | nil => cases h
  | cons e' es ih =>
    cases ds with
    | cons d ds =>
      rcases List.mem_cons.mp h with rfl | h
      · exact ⟨_, d, by rw [Derivations.cons.sizeOf_spec]; omega⟩
      · obtain ⟨s, d', hd'⟩ := ih ds h
        exact ⟨s, d', by rw [Derivations.cons.sizeOf_spec]; omega⟩

/-- What is needed for a text has a smaller derivation. -/
theorem Derivation.exists_of_needs {e e' : Expr} {s : String} (d : Derivation index e s)
    (h : index.Needs e e') : ∃ s', ∃ d' : Derivation index e' s', sizeOf d' < sizeOf d := by
  cases d with
  | path inner hconstant d =>
    cases h with
    | constant hnames =>
      obtain rfl := hconstant.unique hnames
      exact ⟨_, d, by rw [Derivation.path.sizeOf_spec]; omega⟩
  | concat ds =>
    cases h with
    | part hmem =>
      obtain ⟨s', d', hd'⟩ := ds.exists_of_mem hmem
      exact ⟨s', d', by rw [Derivation.concat.sizeOf_spec]; omega⟩
  | reference d =>
    cases h
    exact ⟨_, d, by rw [Derivation.reference.sizeOf_spec]; omega⟩
  | paren d =>
    cases h
    exact ⟨_, d, by rw [Derivation.paren.sizeOf_spec]; omega⟩
  | marked notes d =>
    cases h
    exact ⟨_, d, by rw [Derivation.marked.sizeOf_spec]; omega⟩
  | _ => cases h

theorem Evaluates.of_needed {e e' : Expr} {s : String} (h : index.Evaluates e s)
    (hneeded : ReflTransGen index.Needs e e') : ∃ s', index.Evaluates e' s' := by
  induction hneeded with
  | refl => exact ⟨s, h⟩
  | tail _ hneeds ih =>
    obtain ⟨s', ⟨d⟩⟩ := ih
    obtain ⟨s'', d', -⟩ := d.exists_of_needs hneeds
    exact ⟨s'', ⟨d'⟩⟩

/-- What needs itself has no text: a derivation of least size would hold a smaller one. -/
theorem not_evaluates_of_cycle {e : Expr} (h : TransGen index.Needs e e) (s : String) :
    ¬ index.Evaluates e s := by
  rintro ⟨d⟩
  induction hsize : sizeOf d using Nat.strongRecOn generalizing e s with
  | ind n ih =>
    obtain ⟨e', hneeds, hback⟩ := TransGen.head'_iff.mp h
    obtain ⟨s', d', hd'⟩ := d.exists_of_needs hneeds
    exact ih (sizeOf d') (hsize ▸ hd') (TransGen.tail' hback hneeds) s' d' rfl

theorem constant?_eq_none {e : Expr} (h : ∀ s, ¬ index.Evaluates e s) :
    index.constant? e = none := by
  refine Option.eq_none_iff_forall_ne_some.mpr fun s hs => h s ?_
  obtain ⟨d, -⟩ := foldWithin_eq_some_iff.mp hs
  exact ⟨d⟩

/-- Constant folding finds the texts that have a derivation of at most nine nested levels. What it
finds is the only text that the expression stands for, and it finds none where the expression needs
something that needs itself, or a `concat!` of which a part stands for no text. -/
theorem constant?_exact (index : Index) (e : Expr) :
    (∀ s, index.constant? e = some s ↔ ∃ d : Derivation index e s, d.levels ≤ 9) ∧
    (∀ s, index.constant? e = some s → ∀ t, index.Evaluates e t ↔ t = s) ∧
    (∀ e', ReflTransGen index.Needs e e' → TransGen index.Needs e' e' →
      index.constant? e = none) ∧
    ∀ parts part, ReflTransGen index.Needs e (.invocation "concat" (some parts)) →
      part ∈ parts → (∀ s, ¬ index.Evaluates part s) → index.constant? e = none := by
  have hunneeded (e' : Expr) (hneeded : ReflTransGen index.Needs e e')
      (hnone : ∀ s, ¬ index.Evaluates e' s) : index.constant? e = none := by
    refine constant?_eq_none fun s hs => ?_
    obtain ⟨s', hs'⟩ := hs.of_needed hneeded
    exact hnone s' hs'
  refine ⟨fun s => foldWithin_eq_some_iff, ?_, ?_, ?_⟩
  · intro s hs t
    obtain ⟨d, -⟩ := foldWithin_eq_some_iff.mp hs
    constructor
    · exact Evaluates.unique ⟨d⟩
    · rintro rfl
      exact ⟨d⟩
  · intro e' hneeded hcycle
    exact hunneeded e' hneeded (not_evaluates_of_cycle hcycle)
  · intro parts part hneeded hmem hnone
    exact hunneeded part (hneeded.tail (.part hmem)) hnone

/-- Eight constants in a row take nine levels, and a reference to the first of them takes one too
many. Two constants that need each other stand for nothing. -/
theorem constant?_exact_chain :
    let name (s : String) : Expr := .path [s] []
    let chain := ["A", "B", "C", "D", "E", "F", "G", "H"]
    let index : Index :=
      { constants := chain.zip (chain.tail.map name ++ [.literal (.text "/v1")]) ++
          [("P", name "Q"), ("Q", .invocation "concat" (some [.literal (.text "/"), name "P"]))]
        builderTrait := "", builderTraits := [], builderTypes := [] }
    index.constant? (name "A") = some "/v1" ∧ (∀ t, index.Evaluates (name "A") t ↔ t = "/v1") ∧
    index.Evaluates (.reference (name "A")) "/v1" ∧ index.constant? (.reference (name "A")) = none ∧
    TransGen index.Needs (name "P") (name "P") ∧
    index.constant? (.paren (name "Q")) = none := by
  intro name chain index
  have hfolded : index.constant? (name "A") = some "/v1" := by decide +kernel
  have hvalue := (constant?_exact index (name "A")).2.1 "/v1" hfolded
  have hconstant : index.Needs (name "P") (name "Q") := .constant (namesConstant_iff.mpr rfl)
  have hback : TransGen index.Needs (name "Q") (name "P") :=
    .head (.constant (namesConstant_iff.mpr rfl)) (.single (.part (by simp)))
  have hcycle : TransGen index.Needs (name "P") (name "P") := .head hconstant hback
  refine ⟨hfolded, hvalue, ?_, by decide +kernel, hcycle, ?_⟩
  · obtain ⟨d⟩ := (hvalue "/v1").mpr rfl
    exact ⟨.reference d⟩
  · refine (constant?_exact index _).2.2.1 (name "P") ?_ hcycle
    exact .head .paren hback.to_reflTransGen

end RouteContract.Source.Index
