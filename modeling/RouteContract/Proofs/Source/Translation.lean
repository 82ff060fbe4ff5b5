import Mathlib.Data.List.Forall2
import Mathlib.Data.Option.Basic
import RouteContract.Endpoint.Scan

/-!
Translations of expressions. What a service reads off an expression depends on the form of the
expression and on what the names of paths mean. It survives every translation that keeps these: the
texts, verbs, statuses and handlers that expressions stand for, and with them the settings that
calls make. A translation is a relation, so that the constants a path leads to may be translated
along with the code or be left alone.
-/

namespace RouteContract

section Rel

variable {α β γ δ : Type} {R : α → β → Prop} {S : γ → δ → Prop}

theorem rel_getElem? {as : List α} {bs : List β} (h : List.Forall₂ R as bs) (i : Nat) :
    Option.Rel R as[i]? bs[i]? := by
  induction h generalizing i with
  | nil => exact .none
  | cons hfirst _ ih =>
    cases i with
    | zero => exact .some hfirst
    | succ i => exact ih i

theorem bind_eq_of_rel {a : Option α} {b : Option β} {f : α → Option γ} {g : β → Option γ}
    (h : Option.Rel R a b) (heq : ∀ x y, R x y → g y = f x) : b.bind g = a.bind f := by
  cases h with
  | none => rfl
  | some hxy => exact heq _ _ hxy

theorem rel_findSome? {as : List α} {bs : List β} {f : α → Option γ} {g : β → Option δ}
    (h : List.Forall₂ R as bs) (hrel : ∀ x y, R x y → Option.Rel S (f x) (g y)) :
    Option.Rel S (as.findSome? f) (bs.findSome? g) := by
  induction h with
  | nil => exact .none
  | @cons x y _ _ hfirst _ ih =>
    have hfound := hrel x y hfirst
    rw [List.findSome?_cons, List.findSome?_cons]
    generalize f x = found at hfound
    generalize g y = found' at hfound
    cases hfound with
    | none => exact ih
    | some hS => exact .some hS

theorem mapM_eq_of_forall₂ {as : List α} {bs : List β} {f : α → Option γ} {g : β → Option γ}
    (h : List.Forall₂ R as bs) (heq : ∀ x y, R x y → g y = f x) : bs.mapM g = as.mapM f := by
  induction h with
  | nil => rfl
  | cons hfirst _ ih => rw [List.mapM_cons, List.mapM_cons, heq _ _ hfirst, ih]

theorem forall₂_map_right_of {f : α → β} {xs : List α} (hf : ∀ x, R x (f x)) :
    List.Forall₂ R xs (xs.map f) :=
  List.forall₂_map_right_iff.mpr (List.forall₂_same.mpr fun x _ => hf x)

end Rel

namespace Source

namespace Expr

/-- Expressions that stand for no text and no name. -/
def isMute : Expr → Bool
  | .call .. => true
  | .method .. => true
  | .field .. => true
  | .closure .. => true
  | .operation .. => true
  | .unread => true
  | .other .. => true
  | _ => false

theorem bare_of_isMute {e : Expr} (h : e.isMute) : e.bare = e := by
  cases e with
  | marked notes e => cases h
  | _ => rfl

theorem lastName?_of_isMute {e : Expr} (h : e.isMute) : e.lastName? = none := by
  cases e with
  | path names inner => cases h
  | marked notes e => cases h
  | _ => rfl

/-- Two expressions of one form. The paths in them are related, and so are the parts that can be
read inside them. -/
inductive OneForm (paths : List String → List String → Prop) (parts : Expr → Expr → Prop) :
    Expr → Expr → Prop where
  | literal (value : Literal) : OneForm paths parts (.literal value) (.literal value)
  | path {names names' : List String} {inner inner' : List Expr} (h : paths names names') :
      OneForm paths parts (.path names inner) (.path names' inner')
  | reference {e e' : Expr} (h : parts e e') : OneForm paths parts (.reference e) (.reference e')
  | paren {e e' : Expr} (h : parts e e') : OneForm paths parts (.paren e) (.paren e')
  | array {es es' : List Expr} (h : List.Forall₂ parts es es') :
      OneForm paths parts (.array es) (.array es')
  | unreadInvocation (name : String) :
      OneForm paths parts (.invocation name none) (.invocation name none)
  | invocation (name : String) {es es' : List Expr} (h : List.Forall₂ parts es es') :
      OneForm paths parts (.invocation name (some es)) (.invocation name (some es'))
  | marked {notes notes' : List Expr} {e e' : Expr} (h : parts e e') :
      OneForm paths parts (.marked notes e) (.marked notes' e')
  | mute {e e' : Expr} (h : e.isMute) (h' : e'.isMute) : OneForm paths parts e e'

theorem OneForm.refl {paths : List String → List String → Prop} {parts : Expr → Expr → Prop}
    (hpaths : ∀ names, paths names names) (hparts : ∀ e, parts e e) (e : Expr) :
    OneForm paths parts e e := by
  have hlist (es : List Expr) : List.Forall₂ parts es es :=
    List.forall₂_same.mpr fun e _ => hparts e
  cases e with
  | literal value => exact .literal value
  | path names inner => exact .path (hpaths names)
  | reference e => exact .reference (hparts e)
  | paren e => exact .paren (hparts e)
  | array es => exact .array (hlist es)
  | invocation name arguments =>
    cases arguments with
    | none => exact .unreadInvocation name
    | some es => exact .invocation name (hlist es)
  | marked notes e => exact .marked (hparts e)
  | _ => exact .mute rfl rfl

end Expr

namespace Index

/-- Two names that mean the same, each to its index. -/
structure SameName (index index' : Index) (name name' : String) : Prop where
  function : index'.functions.lookup name' = index.functions.lookup name
  verb : Verb.ofName? name' = Verb.ofName? name
  status : Metadata.namedStatus? name' = Metadata.namedStatus? name

/-- Two paths whose last names mean the same, and whose constants are related. -/
structure SamePath (index index' : Index) (R : Expr → Expr → Prop) (names names' : List String) :
    Prop where
  last : Option.Rel (index.SameName index') names.getLast? names'.getLast?
  constant : Option.Rel R (index.constantExpr? names) (index'.constantExpr? names')

/-- The relation translates expressions of one index into expressions of another one. -/
def Translates (index index' : Index) (R : Expr → Expr → Prop) : Prop :=
  ∀ e e', R e e' → Expr.OneForm (index.SamePath index' R) R e e'

theorem rel_of_eq {α : Type} {R : α → α → Prop} (hR : ∀ a, R a a) (a : Option α) :
    Option.Rel R a a := by
  cases a with
  | none => exact .none
  | some a => exact .some (hR a)

theorem SameName.refl (index : Index) (name : String) : index.SameName index name name :=
  ⟨rfl, rfl, rfl⟩

/-- A map of expressions that keeps forms translates the code of an index. The constants are left
alone. -/
theorem translates_of_map {index : Index} {f : Expr → Expr}
    (hform : ∀ e, Expr.OneForm (index.SamePath index fun e e' => e' = f e ∨ e' = e)
      (fun e e' => e' = f e ∨ e' = e) e (f e)) :
    index.Translates index fun e e' => e' = f e ∨ e' = e := by
  have hself (e : Expr) : e = f e ∨ e = e := Or.inr rfl
  rintro e _ (rfl | rfl)
  · exact hform e
  · refine Expr.OneForm.refl (fun names => ?_) hself _
    exact ⟨rel_of_eq (SameName.refl index) _, rel_of_eq hself _⟩

/-- What stands for no text and no name gives no constant. -/
theorem foldWithin_of_isMute (index : Index) (n : Nat) {e : Expr} (h : e.bare.isMute) :
    index.foldWithin n e = none := by
  cases n with
  | zero => rfl
  | succ n =>
    simp only [foldWithin]
    generalize e.bare = b at h
    cases b <;> first | rfl | cases h

namespace Translates

variable {index index' : Index} {R : Expr → Expr → Prop}

theorem bare (h : index.Translates index' R) {e e' : Expr} (he : R e e') :
    Expr.OneForm (index.SamePath index' R) R e.bare e'.bare := by
  cases h e e' he with
  | literal value => exact .literal value
  | path hnames => exact .path hnames
  | reference hinner => exact .reference hinner
  | paren hinner => exact .paren hinner
  | array hes => exact .array hes
  | unreadInvocation name => exact .unreadInvocation name
  | invocation name hes => exact .invocation name hes
  | marked hinner =>
    have hbare := h.bare hinner
    exact hbare
  | mute hm hm' =>
    rw [Expr.bare_of_isMute hm, Expr.bare_of_isMute hm']
    exact .mute hm hm'
termination_by e

theorem lastName? (h : index.Translates index' R) {e e' : Expr} (he : R e e') :
    Option.Rel (index.SameName index') e.lastName? e'.lastName? := by
  cases h e e' he with
  | path hnames => exact hnames.last
  | marked hinner =>
    have hlast := h.lastName? hinner
    exact hlast
  | mute hm hm' =>
    rw [Expr.lastName?_of_isMute hm, Expr.lastName?_of_isMute hm']
    exact .none
  | _ => exact .none
termination_by e

theorem foldWithin (h : index.Translates index' R) (n : Nat) {e e' : Expr} (he : R e e') :
    index'.foldWithin n e' = index.foldWithin n e := by
  induction n generalizing e e' with
  | zero => rfl
  | succ n ih =>
    have hbare := h.bare he
    by_cases hmute : e.bare.isMute ∧ e'.bare.isMute
    · rw [index.foldWithin_of_isMute _ hmute.1, index'.foldWithin_of_isMute _ hmute.2]
    simp only [Index.foldWithin]
    generalize e.bare = b at hbare hmute
    generalize e'.bare = b' at hbare hmute
    cases hbare with
    | path hnames => exact bind_eq_of_rel hnames.constant fun _ _ => ih
    | reference hinner => exact ih hinner
    | paren hinner => exact ih hinner
    | unreadInvocation name => simp only
    | invocation name hes =>
      by_cases hname : name = "concat"
      · subst hname
        exact congrArg (Option.map String.join) (mapM_eq_of_forall₂ hes fun _ _ => ih)
      · simp [hname]
    | mute hm hm' => exact absurd ⟨hm, hm'⟩ hmute
    | _ => rfl

/-- The text that an expression stands for. -/
theorem constant? (h : index.Translates index' R) {e e' : Expr} (he : R e e') :
    index'.constant? e' = index.constant? e :=
  h.foldWithin foldingSteps he

theorem handlerTypes (h : index.Translates index' R) {es es' : List Expr}
    (hes : List.Forall₂ R es es') : index'.handlerTypes es' = index.handlerTypes es := by
  have hlast := rel_findSome? (List.rel_reverse hes) fun _ _ => h.lastName?
  have hfunction := bind_eq_of_rel hlast fun _ _ hname => hname.function
  simp only [Index.handlerTypes, hfunction]

theorem argumentVerb? (h : index.Translates index' R) {e e' : Expr} (he : R e e') :
    Site.argumentVerb? index' e' = Site.argumentVerb? index e := by
  have hverb := bind_eq_of_rel (h.lastName? he) fun _ _ hname => hname.verb
  simp only [Site.argumentVerb?, h.constant? he, hverb]

end Translates

end Index

end Source

open Source

namespace Metadata

variable {index index' : Index} {R : Expr → Expr → Prop}

theorem textArgument?_of_translates (h : index.Translates index' R) {es es' : List Expr}
    (hes : List.Forall₂ R es es') (i : Nat) :
    textArgument? index' es' i = textArgument? index es i :=
  congrArg (Option.filter _) (bind_eq_of_rel (rel_getElem? hes i) fun _ _ => h.constant?)

theorem statusArgument?_of_translates (h : index.Translates index' R) {es es' : List Expr}
    (hes : List.Forall₂ R es es') (i : Nat) :
    statusArgument? index' es' i = statusArgument? index es i := by
  refine bind_eq_of_rel (rel_getElem? hes i) fun e e' he => ?_
  have hstatus := bind_eq_of_rel (h.lastName? he) fun _ _ hname => hname.status
  rw [hstatus, Index.constant?_oracle, Index.constant?_oracle, h.constant? he]

theorem textList_of_isMute (oracle : Oracle) {e : Expr} (h : e.isMute) :
    textList oracle e = (oracle.constant? e).toList := by
  cases e <;> first | (simp only [textList]; done) | cases h

mutual

theorem textList_of_translates (h : index.Translates index' R) {e e' : Expr} (he : R e e') :
    textList index' e' = textList index e := by
  have hconstant := congrArg Option.toList (h.constant? he)
  cases h e e' he with
  | literal value => simpa only [textList, Index.constant?_oracle] using hconstant
  | path hnames => simpa only [textList, Index.constant?_oracle] using hconstant
  | paren hinner => simpa only [textList, Index.constant?_oracle] using hconstant
  | array hes =>
    simp only [textList]
    exact textLists_of_translates h hes
  | reference hinner =>
    simp only [textList]
    exact textList_of_translates h hinner
  | marked hinner =>
    simp only [textList]
    exact textList_of_translates h hinner
  | unreadInvocation name =>
    by_cases hname : name = "vec"
    · subst hname
      simp only [textList]
    · simpa [textList, hname] using hconstant
  | invocation name hes =>
    by_cases hname : name = "vec"
    · subst hname
      simp only [textList]
      exact textLists_of_translates h hes
    · simpa [textList, hname] using hconstant
  | mute hm hm' =>
    rw [textList_of_isMute _ hm, textList_of_isMute _ hm']
    exact hconstant
termination_by sizeOf e

theorem textLists_of_translates (h : index.Translates index' R) {es es' : List Expr}
    (hes : List.Forall₂ R es es') : textLists index' es' = textLists index es := by
  cases hes with
  | nil => simp only [textLists]
  | cons he hes =>
    rw [textLists, textLists, textList_of_translates h he, textLists_of_translates h hes]
termination_by sizeOf es

end

/-- A call whose arguments are translated makes the same settings. -/
theorem applyCall_of_translates (h : index.Translates index' R) {m : Metadata} {c c' : Call}
    (hname : c'.name = c.name) (htypes : c'.types = c.types)
    (harguments : List.Forall₂ R c.arguments c'.arguments) :
    applyCall index' m c' = applyCall index m c := by
  have htext := funext (textArgument?_of_translates h harguments)
  have hstatus := funext (statusArgument?_of_translates h harguments)
  simp only [applyCall, namedArgument?, hname, htypes, htext, hstatus,
    textLists_of_translates h harguments]

end Metadata

end RouteContract
