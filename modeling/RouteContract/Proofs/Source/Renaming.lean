import RouteContract.Proofs.Source.Translation

/-!
Renaming variables throughout code. A renaming may give two variables one name; nothing is asked of
it here but that the names it moves stand for variables only, and then the texts, verbs, statuses
and handlers that expressions name stay the same. What the declared type of a receiver needs in
addition is that its variable is not captured: the latest binding under its new name has to be one
of the variable itself.
-/

namespace RouteContract

namespace Source

variable (ρ : String → String)

/-- A path is a variable if it is a single name. -/
def renamePath : List String → List String
  | [name] => [ρ name]
  | names => names

def Pattern.rename : Pattern → Pattern
  | .name x => .name (ρ x)
  | .typed x t => .typed (ρ x) t
  | .openRange => .openRange
  | .other => .other

def Signature.rename (s : Signature) : Signature :=
  { s with params := s.params.map fun p => { p with name := p.name.map ρ } }

mutual

def Expr.rename : Expr → Expr
  | .literal value => .literal value
  | .path names inner => .path (renamePath ρ names) (renameExprs inner)
  | .call callee arguments => .call callee.rename (renameExprs arguments)
  | .method receiver name pos types arguments =>
    .method receiver.rename name pos types (renameExprs arguments)
  | .field base name => .field base.rename name
  | .reference e => .reference e.rename
  | .paren e => .paren e.rename
  | .array es => .array (renameExprs es)
  | .invocation name none => .invocation name none
  | .invocation name (some es) => .invocation name (some (renameExprs es))
  | .closure params parts => .closure (params.map (Pattern.rename ρ)) (renameCodes parts)
  | .operation left right => .operation left.rename (renameCodes right)
  | .marked notes e => .marked (renameExprs notes) e.rename
  | .unread => .unread
  | .other parts => .other (renameCodes parts)

def renameExprs : List Expr → List Expr
  | [] => []
  | e :: es => e.rename :: renameExprs es

def renameOptionalExpr : Option Expr → Option Expr
  | none => none
  | some e => some e.rename

/-- A declaration keeps its own names: only variables are renamed. -/
def Code.rename : Code → Code
  | .expr e => .expr e.rename
  | .binding p lead value otherwise =>
    .binding (p.rename ρ) (renameCodes lead) (renameOptionalExpr value) (renameCodes otherwise)
  | .record decl parts => .record decl (renameCodes parts)
  | .choice decl parts => .choice decl (renameCodes parts)
  | .typeAlias name target parts => .typeAlias name target (renameCodes parts)
  | .constant name lead value => .constant name (renameCodes lead) value.rename
  | .function signature parts => .function (signature.rename ρ) (renameCodes parts)
  | .imports pairs parts => .imports pairs (renameCodes parts)
  | .module lead items => .module (renameCodes lead) (renameCodes items)
  | .trait name supers lead members =>
    .trait name supers (renameCodes lead) (renameCodes members)
  | .impl self bounds trait lead members =>
    .impl self bounds trait (renameCodes lead) (renameCodes members)
  | .other parts => .other (renameCodes parts)

def renameCodes : List Code → List Code
  | [] => []
  | c :: cs => c.rename :: renameCodes cs

end

@[simp] theorem renameExprs_eq_map (es : List Expr) :
    renameExprs ρ es = es.map (Expr.rename ρ) := by
  induction es with
  | nil => rfl
  | cons e es ih => rw [renameExprs, ih, List.map_cons]

@[simp] theorem renameOptionalExpr_eq_map (e : Option Expr) :
    renameOptionalExpr ρ e = e.map (Expr.rename ρ) := by
  cases e <;> rfl

theorem Expr.bare_rename (e : Expr) : (e.rename ρ).bare = e.bare.rename ρ := by
  fun_induction Expr.bare e with
  | case1 notes e ih => simpa only [Expr.rename, Expr.bare] using ih
  | case2 e hmarked =>
    cases e with
    | marked notes e => exact absurd rfl (hmarked notes e)
    | invocation name arguments => cases arguments <;> rfl
    | _ => rfl

/-- The constructors of a type are named by paths of two names or more. -/
@[simp] theorem ownerType?_renamePath (names : List String) :
    ownerType? (renamePath ρ names) = ownerType? names := by
  match names with
  | [] => rfl
  | [_] => rfl
  | _ :: _ :: _ => rfl

end Source

open Source

/-- A name by which only variables go: it is not `self`, and no constant, function, verb or status
has it. -/
structure Source.Index.VariableName (index : Index) (name : String) : Prop where
  self : name ≠ "self"
  constant : index.constants.lookup name = none
  function : index.functions.lookup name = none
  verb : Verb.ofName? name = none
  status : Metadata.namedStatus? name = none

/-- The names that a renaming changes, and those it changes them to, are names of variables. -/
def Source.Index.RenamesVariables (index : Index) (ρ : String → String) : Prop :=
  ∀ name, ρ name ≠ name → index.VariableName name ∧ index.VariableName (ρ name)

variable {index : Index} {ρ : String → String}

namespace Source.Index.RenamesVariables

/-- What names mean, other than variables, does not depend on a renaming. -/
theorem meaning_eq (hρ : index.RenamesVariables ρ) {α : Type} {meaning : String → Option α}
    (hnone : ∀ name, index.VariableName name → meaning name = none) (name : String) :
    meaning (ρ name) = meaning name := by
  by_cases hname : ρ name = name
  · rw [hname]
  · obtain ⟨hold, hnew⟩ := hρ name hname
    rw [hnone _ hold, hnone _ hnew]

theorem eq_self_iff (hρ : index.RenamesVariables ρ) (name : String) :
    ρ name = "self" ↔ name = "self" := by
  by_cases hname : ρ name = name
  · rw [hname]
  · obtain ⟨hold, hnew⟩ := hρ name hname
    exact ⟨fun h => absurd h hnew.self, fun h => absurd h hold.self⟩

end Source.Index.RenamesVariables

section Meanings

variable (hρ : index.RenamesVariables ρ)
include hρ

theorem constantExpr?_renamePath (names : List String) :
    index.constantExpr? (renamePath ρ names) = index.constantExpr? names := by
  match names with
  | [] => rfl
  | [name] =>
    have hname := hρ.meaning_eq (fun _ h => h.constant) name
    simp only [Index.constantExpr?, Index.constantKeys, renamePath, List.reverse_singleton,
      List.findSome?_cons, hname]
  | _ :: _ :: _ => rfl

/-- A renaming of variables translates code. Constants keep their values as they are. -/
theorem translates_rename :
    index.Translates index fun e e' => e' = e.rename ρ ∨ e' = e := by
  have hlist (es : List Expr) :
      List.Forall₂ (fun e e' => e' = e.rename ρ ∨ e' = e) es (renameExprs ρ es) := by
    rw [renameExprs_eq_map]
    exact forall₂_map_right_of fun _ => Or.inl rfl
  refine Index.translates_of_map fun e => ?_
  cases e with
  | literal value => exact .literal value
  | path names inner =>
    refine .path ⟨?_, ?_⟩
    · match names with
      | [] => exact .none
      | [name] =>
        exact .some ⟨hρ.meaning_eq (fun _ h => h.function) name,
          hρ.meaning_eq (fun _ h => h.verb) name, hρ.meaning_eq (fun _ h => h.status) name⟩
      | _ :: _ :: _ => exact Index.rel_of_eq (Index.SameName.refl index) _
    · rw [constantExpr?_renamePath hρ]
      exact Index.rel_of_eq (fun e => show e = e.rename ρ ∨ e = e from Or.inr rfl) _
  | reference e => exact .reference (Or.inl rfl)
  | paren e => exact .paren (Or.inl rfl)
  | array es => exact .array (hlist es)
  | invocation name arguments =>
    cases arguments with
    | none => exact .unreadInvocation name
    | some es => exact .invocation name (hlist es)
  | marked notes e => exact .marked (Or.inl rfl)
  | _ => exact .mute rfl rfl

/-- A renaming of variables changes no text that an expression stands for. -/
theorem constant?_rename (e : Expr) : index.constant? (e.rename ρ) = index.constant? e :=
  (translates_rename hρ).constant? (Or.inl rfl)

theorem handlerTypes_rename (arguments : List Expr) :
    index.handlerTypes (arguments.map (Expr.rename ρ)) = index.handlerTypes arguments :=
  (translates_rename hρ).handlerTypes (forall₂_map_right_of fun _ => Or.inl rfl)

theorem argumentVerb?_rename (e : Expr) :
    Site.argumentVerb? index (e.rename ρ) = Site.argumentVerb? index e :=
  (translates_rename hρ).argumentVerb? (Or.inl rfl)

end Meanings

namespace Source

/-- The variable that a receiver starts from. -/
def Expr.variable? : Expr → Option String
  | .path [name] _ => some name
  | .field base _ => base.variable?
  | .method receiver _ _ _ _ => receiver.variable?
  | .reference e => e.variable?
  | .paren e => e.variable?
  | .marked _ e => e.variable?
  | _ => none

namespace Scope

def rename (ρ : String → String) (s : Scope) : Scope :=
  { s with bindings := s.bindings.map fun b => (ρ b.1, b.2) }

/-- Whether a variable is not captured: the latest binding under its new name, if there is one,
binds the variable itself. -/
def keeps (ρ : String → String) (s : Scope) (name : String) : Bool :=
  (s.bindings.find? fun b => ρ b.1 == ρ name).all (·.1 == name)

theorem binding?_rename {s : Scope} {name : String} (hkept : s.keeps ρ name) :
    (s.rename ρ).binding? (ρ name) = s.binding? name := by
  obtain ⟨bindings, self, bounds⟩ := s
  simp only [keeps, binding?, rename] at hkept ⊢
  induction bindings with
  | nil => rfl
  | cons b bindings ih =>
    rw [List.map_cons, List.lookup_cons, List.lookup_cons]
    by_cases hnew : ρ b.1 = ρ name
    · have hname : b.1 = name := by simpa [hnew] using hkept
      simp [hname]
    · have hname : b.1 ≠ name := fun h => hnew (congrArg ρ h)
      have hrest := ih (by simpa [hnew] using hkept)
      simpa [beq_false_of_ne (Ne.symm hnew), beq_false_of_ne (Ne.symm hname)] using hrest

end Scope

/-- A receiver whose variable is not captured keeps its declared type. -/
theorem receiverType?_rename (hρ : index.RenamesVariables ρ) {scope : Scope} (e : Expr)
    (hkept : e.variable?.all (scope.keeps ρ)) :
    index.receiverType? (scope.rename ρ) (e.rename ρ) = index.receiverType? scope e := by
  cases e with
  | path names inner =>
    match names with
    | [] => rfl
    | [name] =>
      have hbinding : (scope.rename ρ).binding? (ρ name) = scope.binding? name :=
        Scope.binding?_rename hkept
      have hself : (ρ name == "self") = (name == "self") := by
        rw [Bool.eq_iff_iff, beq_iff_eq, beq_iff_eq, hρ.eq_self_iff]
      simp only [Expr.rename, renamePath, Index.receiverType?, hself, hbinding]
      rfl
    | _ :: _ :: _ => rfl
  | call callee arguments =>
    cases callee with
    | path names inner => exact ownerType?_renamePath ρ names
    | invocation name arguments => cases arguments <;> rfl
    | _ => rfl
  | method receiver name pos types arguments => exact receiverType?_rename hρ receiver hkept
  | field base member =>
    have hbase := receiverType?_rename hρ base hkept
    simp only [Expr.rename, Index.receiverType?, hbase]
  | reference e => exact receiverType?_rename hρ e hkept
  | paren e => exact receiverType?_rename hρ e hkept
  | marked notes e => exact receiverType?_rename hρ e hkept
  | invocation name arguments => cases arguments <;> rfl
  | _ => rfl

end Source

end RouteContract
