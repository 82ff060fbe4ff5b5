import RouteContract.Proofs.Except
import RouteContract.Proofs.Table
import RouteContract.Source.Receiver

/-!
How far the recognition of route builders depends on the name under which a type is declared. Two
services are compared that are written alike but for the names in the declared types of receivers:
names of types, as in `A`, `&mut A` or `Box<A>`, and names of traits, as in `impl A`, `dyn A` or the
bound of a type parameter. A name that an import gives is looked through where it stands for a type.
Where it stands for a trait it is taken as it is written, and so is the name of a type alias
everywhere.
-/

namespace RouteContract.Source

/-- Types that are written alike, with other names of types as `types` allows and other names of
traits as `traits` allows. -/
inductive TypeExpr.Alike (types traits : String → String → Prop) : TypeExpr → TypeExpr → Prop
  | same (t : TypeExpr) : Alike types traits t t
  | named {name name' : String} (lead : Lead) (applied : Bool) (arguments : List TypeExpr)
      (h : types name name') :
      Alike types traits (.named lead name applied arguments) (.named lead name' applied arguments)
  | argument {t t' : TypeExpr} (lead : Lead) (name : String) (applied : Bool)
      (rest : List TypeExpr) (h : Alike types traits t t') :
      Alike types traits (.named lead name applied (t :: rest))
        (.named lead name applied (t' :: rest))
  | reference {t t' : TypeExpr} (h : Alike types traits t t') :
      Alike types traits (.reference t) (.reference t')
  | paren {t t' : TypeExpr} (h : Alike types traits t t') :
      Alike types traits (.paren t) (.paren t')
  | bounded {names names' : List String} (h : List.Forall₂ traits names names') :
      Alike types traits (.bounded names) (.bounded names')

section Alike

variable (types traits : String → String → Prop)

/-- Type parameters of the same names, bound by traits that are written alike. -/
def Bounds.Alike : Bounds → Bounds → Prop :=
  List.Forall₂ fun b b' => b.1 = b'.1 ∧ List.Forall₂ traits b.2 b'.2

structure Scope.Alike (scope scope' : Scope) : Prop where
  bindings : List.Forall₂ (fun b b' => b.1 = b'.1 ∧ b.2.Alike types traits b'.2)
    scope.bindings scope'.bindings
  self : Option.Rel (TypeExpr.Alike types traits) scope.self scope'.self
  bounds : Bounds.Alike traits scope.bounds scope'.bounds

/-- Declared types of the same form, with fields whose types are written alike. -/
def TypeDecl.Alike : TypeDecl → TypeDecl → Prop
  | .record d, .record d' =>
    List.Forall₂ (fun f f' => f.name = f'.name ∧ f.type.Alike types traits f'.type)
      d.fields d'.fields
  | .choice _, .choice _ => True
  | _, _ => False

/-- Indices of services that are written alike. They agree in everything that a name is judged
by. -/
structure Index.Alike (index index' : Index) : Prop where
  types : List.Forall₂ (fun d d' => d.1 = d'.1 ∧ d.2.Alike types traits d'.2)
    index.types index'.types
  renames : index'.renames = index.renames
  builderTrait : index'.builderTrait = index.builderTrait
  builderTraits : index'.builderTraits = index.builderTraits
  builderTypes : index'.builderTypes = index.builderTypes

end Alike

namespace Index

/-- Whether a call is known to have a route builder as its receiver; none if the type of the
receiver is not known. -/
def builderCall? (index : Index) (scope : Scope) (call : Call) : Option Bool :=
  (index.receiverType? scope call.receiver).map (index.isBuilder scope)

/-- Resolving a call gives this verdict. -/
theorem builderCall?_of_resolve {index : Index} {scope : Scope} {call : Call}
    {r : Option ResolvedCall} (h : index.resolve scope call = .ok r) :
    index.builderCall? scope call = r.map (·.isBuilder) := by
  rw [resolve] at h
  cases htype : index.receiverType? scope call.receiver with
  | none =>
    rw [htype] at h
    cases h
    rw [builderCall?, htype]
    rfl
  | some t =>
    simp only [htype] at h
    obtain ⟨typeArguments, -, heq⟩ := Except.bind_eq_ok h
    cases heq
    rw [builderCall?, htype]
    rfl

/-- The names of the types whose fields lead to a receiver. -/
def fieldOwners (index : Index) (scope : Scope) : Expr → List (Option String)
  | .field base _ => index.fieldOwners scope base ++
      [(index.receiverType? scope base).bind (·.stripReferences.simpleName?)]
  | .method receiver _ _ _ _ => index.fieldOwners scope receiver
  | .reference e => index.fieldOwners scope e
  | .paren e => index.fieldOwners scope e
  | .marked _ e => index.fieldOwners scope e
  | _ => []

end Index

section Receiver

variable {types traits : String → String → Prop} {index index' : Index} {scope scope' : Scope}

theorem find?_field_alike {fields fields' : List (Field Expr)}
    (h : List.Forall₂ (fun f f' => f.name = f'.name ∧ f.type.Alike types traits f'.type)
      fields fields') (field : String) :
    Option.Rel (TypeExpr.Alike types traits) ((fields.find? (·.name == field)).map (·.type))
      ((fields'.find? (·.name == field)).map (·.type)) := by
  induction h with
  | nil => exact .none
  | cons hfield _ ih =>
    rw [List.find?_cons, List.find?_cons, ← hfield.1]
    split
    · exact .some hfield.2
    · exact ih

theorem Index.fieldType?_alike (hindex : index.Alike types traits index') (owner field : String) :
    Option.Rel (TypeExpr.Alike types traits) (index.fieldType? owner field)
      (index'.fieldType? owner field) := by
  rw [fieldType?, fieldType?]
  have hdecls := Table.lookup_rel hindex.types owner
  generalize index.types.lookup owner = decl?, index'.types.lookup owner = decl'? at hdecls ⊢
  cases hdecls with
  | none => exact .none
  | @some decl decl' hdecl =>
    cases decl with
    | choice d =>
      cases decl' with
      | choice d' => exact .none
      | record d' => exact hdecl.elim
    | record d =>
      cases decl' with
      | choice d' => exact hdecl.elim
      | record d' =>
        exact find?_field_alike hdecl field

theorem Index.receiverType?_field (base : Expr) (member : Option String) :
    index.receiverType? scope (.field base member) =
      (index.receiverType? scope base).bind fun t => member.bind fun field =>
        t.stripReferences.simpleName?.bind (index.fieldType? · field) := by
  cases hbase : index.receiverType? scope base <;> cases member <;>
    simp only [receiverType?, hbase] <;> rfl

/-- Where the fields on the way to a receiver belong to the same types, the types that receivers are
declared with are alike. -/
theorem Index.receiverType?_alike (hindex : index.Alike types traits index')
    (hscope : scope.Alike types traits scope') (e : Expr)
    (howners : index'.fieldOwners scope' e = index.fieldOwners scope e) :
    Option.Rel (TypeExpr.Alike types traits) (index.receiverType? scope e)
      (index'.receiverType? scope' e) := by
  have hrefl (t : Option TypeExpr) : Option.Rel (TypeExpr.Alike types traits) t t := by
    cases t with
    | none => exact .none
    | some t => exact .some (.same t)
  cases e with
  | path names inner =>
    match names with
    | [] => exact .none
    | [name] =>
      rw [receiverType?, receiverType?]
      split
      · exact hscope.self
      · exact Table.lookup_rel hscope.bindings name
    | _ :: _ :: _ => exact .none
  | call callee arguments =>
    cases callee with
    | path names inner => exact hrefl (ownerType? names)
    | _ => exact .none
  | method receiver name pos callTypes arguments =>
    exact receiverType?_alike hindex hscope receiver howners
  | field base member =>
    -- The base has the same owners and then a type of the same name, so that the field is looked
    -- up in the same declaration.
    obtain ⟨hbefore, howner⟩ := List.append_inj' howners rfl
    rw [List.singleton_inj] at howner
    have hbases := receiverType?_alike hindex hscope base hbefore
    rw [receiverType?_field, receiverType?_field]
    generalize index.receiverType? scope base = t?, index'.receiverType? scope' base = t'?
      at hbases howner ⊢
    cases hbases with
    | none => exact .none
    | @some t t' _ =>
      cases member with
      | none => exact .none
      | some field =>
        simp only [Option.bind_some] at howner ⊢
        rw [howner]
        cases t.stripReferences.simpleName? with
        | none => exact .none
        | some owner => exact fieldType?_alike hindex owner field
  | reference e => exact receiverType?_alike hindex hscope e howners
  | paren e => exact receiverType?_alike hindex hscope e howners
  | marked notes e => exact receiverType?_alike hindex hscope e howners
  | _ => exact .none

theorem TypeExpr.Alike.simpleName?_eq {t t' : TypeExpr} (h : t.Alike Eq traits t') :
    t'.stripReferences.simpleName? = t.stripReferences.simpleName? := by
  induction h with
  | named lead applied arguments heq => rw [heq]
  | reference _ ih => exact ih
  | paren _ ih => exact ih
  | _ => rfl

/-- Fields belong to the same types as before if no name of a type is exchanged. -/
theorem Index.fieldOwners_alike (hindex : index.Alike Eq traits index')
    (hscope : scope.Alike Eq traits scope') (e : Expr) :
    index'.fieldOwners scope' e = index.fieldOwners scope e := by
  cases e with
  | field base member =>
    have hbase := fieldOwners_alike hindex hscope base
    have hreceivers := receiverType?_alike hindex hscope base hbase
    rw [fieldOwners, fieldOwners, hbase]
    generalize index.receiverType? scope base = t?, index'.receiverType? scope' base = t'?
      at hreceivers ⊢
    cases hreceivers with
    | none => rfl
    | some ht => rw [Option.bind_some, Option.bind_some, ht.simpleName?_eq]
  | method receiver name pos callTypes arguments => exact fieldOwners_alike hindex hscope receiver
  | reference e => exact fieldOwners_alike hindex hscope e
  | paren e => exact fieldOwners_alike hindex hscope e
  | marked notes e => exact fieldOwners_alike hindex hscope e
  | _ => rfl

end Receiver

section Verdict

variable {types traits : String → String → Prop} {index index' : Index} {scope scope' : Scope}

theorem any_isBuilderTrait_alike
    (htraits : ∀ n n', traits n n' → index.isBuilderTrait n' = index.isBuilderTrait n)
    {names names' : List String} (h : List.Forall₂ traits names names') :
    names'.any index.isBuilderTrait = names.any index.isBuilderTrait := by
  induction h with
  | nil => rfl
  | cons hname _ ih => rw [List.any_cons, List.any_cons, ih, htraits _ _ hname]

theorem Scope.boundsOf?_alike (hbounds : Bounds.Alike traits scope.bounds scope'.bounds)
    (param : String) :
    Option.Rel (List.Forall₂ traits) (scope.boundsOf? param) (scope'.boundsOf? param) := by
  have hfilter : Bounds.Alike traits (scope.bounds.filter (·.1 == param))
      (scope'.bounds.filter (·.1 == param)) :=
    List.rel_filter (fun _ _ hb => iff_of_eq (congrArg (fun name => (name == param) = true) hb.1))
      hbounds
  rw [boundsOf?, boundsOf?]
  generalize scope.bounds.filter (·.1 == param) = entries,
    scope'.bounds.filter (·.1 == param) = entries' at hfilter ⊢
  have hflat : List.Forall₂ traits (entries.flatMap (·.2)) (entries'.flatMap (·.2)) :=
    List.rel_flatMap hfilter fun _ _ hb => hb.2
  cases hfilter with
  | nil => exact .none
  | cons => exact .some hflat

/-- Between services that are written alike the verdict on a type stays, if traits that are written
for each other are alike. -/
theorem Index.isBuilder_alike (hindex : index.Alike types traits index')
    (hbounds : Bounds.Alike traits scope.bounds scope'.bounds)
    (htraits : ∀ n n', traits n n' → index.isBuilderTrait n' = index.isBuilderTrait n)
    (t : TypeExpr) : index'.isBuilder scope' t = index.isBuilder scope t := by
  have htrait : index'.isBuilderTrait = index.isBuilderTrait := by
    funext name
    rw [isBuilderTrait, isBuilderTrait, hindex.builderTraits]
  have hname (name : String) :
      index'.isBuilderName scope' name = index.isBuilderName scope name := by
    have hparams := Scope.boundsOf?_alike hbounds name
    rw [isBuilderName, isBuilderName]
    generalize scope.boundsOf? name = bounds?, scope'.boundsOf? name = bounds'? at hparams ⊢
    cases hparams with
    | none =>
      simp only [hindex.renames, hindex.builderTypes, hindex.builderTraits, hindex.builderTrait]
    | some hparam =>
      simp only [htrait]
      exact any_isBuilderTrait_alike htraits hparam
  induction t using isBuilder.induct with
  | case1 t ih => simpa only [isBuilder] using ih
  | case2 t ih => simpa only [isBuilder] using ih
  | case3 traits => simp only [isBuilder, htrait]
  | case4 lead name applied t rest hwrapper ih =>
    rwa [isBuilder, isBuilder, if_pos hwrapper, if_pos hwrapper]
  | case5 lead name applied t rest hwrapper =>
    rw [isBuilder, isBuilder, if_neg hwrapper, if_neg hwrapper, hname]
  | case6 lead name applied => simp only [isBuilder, hname]
  | case7 t => simp only [isBuilder]

/-- In one service the verdict on types that are alike is the same, if names that are written for
each other are. -/
theorem Index.isBuilder_of_alike
    (htypes : ∀ n n', types n n' → isOwningWrapper n' = isOwningWrapper n ∧
      index.isBuilderName scope n' = index.isBuilderName scope n)
    (htraits : ∀ n n', traits n n' → index.isBuilderTrait n' = index.isBuilderTrait n)
    {t t' : TypeExpr} (h : t.Alike types traits t') :
    index.isBuilder scope t' = index.isBuilder scope t := by
  induction h with
  | same t => rfl
  | named lead applied arguments hname =>
    obtain ⟨hwrapper, hverdict⟩ := htypes _ _ hname
    cases arguments <;> simp only [isBuilder, hwrapper, hverdict]
  | argument lead name applied rest _ ih => simp only [isBuilder, ih]
  | reference _ ih => simpa only [isBuilder] using ih
  | paren _ ih => simpa only [isBuilder] using ih
  | bounded hnames =>
    simp only [isBuilder]
    exact any_isBuilderTrait_alike htraits hnames

/-- A call in two services that are written alike is judged alike, if the names that are written
for each other are. -/
theorem Index.builderCall?_alike (hindex : index.Alike types traits index')
    (hscope : scope.Alike types traits scope')
    (htypes : ∀ n n', types n n' → isOwningWrapper n' = isOwningWrapper n ∧
      index.isBuilderName scope n' = index.isBuilderName scope n)
    (htraits : ∀ n n', traits n n' → index.isBuilderTrait n' = index.isBuilderTrait n)
    {call : Call}
    (howners : index'.fieldOwners scope' call.receiver = index.fieldOwners scope call.receiver) :
    index'.builderCall? scope' call = index.builderCall? scope call := by
  have hreceivers := receiverType?_alike hindex hscope call.receiver howners
  rw [builderCall?, builderCall?]
  generalize index.receiverType? scope call.receiver = t?,
    index'.receiverType? scope' call.receiver = t'? at hreceivers ⊢
  cases hreceivers with
  | none => rfl
  | some ht =>
    rw [Option.map_some, Option.map_some, isBuilder_alike hindex hscope.bounds htraits,
      isBuilder_of_alike htypes htraits ht]

end Verdict

/-- The same name, or `target` in place of `name`. -/
def InPlaceOf (name target n n' : String) : Prop := n' = n ∨ n = name ∧ n' = target

theorem Scope.alike_refl (scope : Scope) (types : String → String → Prop)
    (traits : String → String → Prop) [Std.Refl traits] : scope.Alike types traits scope where
  bindings := List.forall₂_same.mpr fun b _ => ⟨rfl, .same b.2⟩
  self := by
    cases scope.self with
    | none => exact .none
    | some t => exact .some (.same t)
  bounds := List.forall₂_same.mpr fun b _ => ⟨rfl, List.forall₂_refl b.2⟩

namespace Index

variable {index : Index} {name target : String}

/-- The verdict on the name of a type that is no type parameter. An import is looked through
once. -/
def nameVerdict (index : Index) (name : String) : Bool :=
  let canonical := (index.renames.lookup name).getD name
  index.builderTypes.contains canonical || index.builderTraits.contains canonical ||
    Text.contains canonical index.builderTrait

theorem isBuilderName_of_no_param {scope : Scope} (h : scope.boundsOf? name = none) :
    index.isBuilderName scope name = index.nameVerdict name := by
  rw [isBuilderName, h]
  rfl

/-- Every call keeps its verdict when in a service names are written for each other as `types` and
`traits` allow. The names of types that are exchanged do not name type parameters where the call
stands, and fields that lead to the receiver belong to the same types as before. -/
def LooksThrough (index : Index) (types traits : String → String → Prop) : Prop :=
  ∀ (index' : Index) (scope scope' : Scope) (call : Call),
    index.Alike types traits index' → scope.Alike types traits scope' →
    (∀ n n', types n n' → n' ≠ n → scope.boundsOf? n = none ∧ scope.boundsOf? n' = none) →
    index'.fieldOwners scope' call.receiver = index.fieldOwners scope call.receiver →
    index'.builderCall? scope' call = index.builderCall? scope call

theorem alike_with_aliases (index : Index) (types traits : String → String → Prop)
    (aliases : List (String × TypeExpr)) : index.Alike types traits { index with aliases } where
  types := by
    refine List.forall₂_same.mpr fun entry _ => ⟨rfl, ?_⟩
    cases entry.2 with
    | record d => exact List.forall₂_same.mpr fun f _ => ⟨rfl, .same f.type⟩
    | choice d => trivial
  renames := rfl
  builderTrait := rfl
  builderTraits := rfl
  builderTypes := rfl

/-- In particular a variable may be declared with one type or the other. -/
theorem LooksThrough.isBuilder_eq {types traits : String → String → Prop}
    (h : index.LooksThrough types traits) {t t' : TypeExpr} (ht : t.Alike types traits t') :
    index.isBuilder { bindings := [("routes", t')] } t' =
      index.isBuilder { bindings := [("routes", t)] } t := by
  let call : Call := ⟨.path ["routes"] [], "map_get", ⟨1, 0⟩, [], []⟩
  have hcall := h index { bindings := [("routes", t)] } { bindings := [("routes", t')] } call
    (index.alike_with_aliases types traits index.aliases) ⟨.cons ⟨rfl, ht⟩ .nil, .none, .nil⟩
    (fun _ _ _ _ => ⟨rfl, rfl⟩) rfl
  exact Option.some_inj.mp hcall

theorem looksThrough_types_iff (hname : isOwningWrapper name = false)
    (htarget : isOwningWrapper target = false) :
    index.LooksThrough (InPlaceOf name target) Eq ↔
      index.nameVerdict name = index.nameVerdict target := by
  constructor
  · intro h
    -- A variable whose type is the bare name shows the verdict on the name itself.
    have heq := h.isBuilder_eq (.named {} false [] (.inr ⟨rfl, rfl⟩))
    simp only [isBuilder, hname, htarget, Bool.not_false, Bool.true_and] at heq
    rw [isBuilderName_of_no_param rfl, isBuilderName_of_no_param rfl] at heq
    exact heq.symm
  · intro hverdict index' scope scope' call hindex hscope hparams howners
    refine builderCall?_alike hindex hscope ?_ (fun _ _ heq => by rw [heq]) howners
    rintro n n' (rfl | ⟨rfl, rfl⟩)
    · exact ⟨rfl, rfl⟩
    -- Only a name that really changes is known to be no type parameter.
    · by_cases heq : n' = n
      · rw [heq]
        exact ⟨rfl, rfl⟩
      · obtain ⟨hn, hn'⟩ := hparams n n' (.inr ⟨rfl, rfl⟩) heq
        rw [isBuilderName_of_no_param hn, isBuilderName_of_no_param hn', hname, htarget]
        exact ⟨rfl, hverdict.symm⟩

theorem looksThrough_traits_iff :
    index.LooksThrough Eq (InPlaceOf name target) ↔
      index.isBuilderTrait name = index.isBuilderTrait target := by
  constructor
  · intro h
    have heq := h.isBuilder_eq (.bounded (.cons (.inr ⟨rfl, rfl⟩) .nil))
    simpa only [isBuilder, List.any_cons, List.any_nil, Bool.or_false] using heq.symm
  · intro hverdict index' scope scope' call hindex hscope _ howners
    refine builderCall?_alike hindex hscope (fun _ _ heq => by simp [heq]) ?_ howners
    rintro n n' (rfl | ⟨rfl, rfl⟩)
    · rfl
    · exact hverdict.symm

/-- How far names are looked through. A name that an import gives to a type is, if the name of that
type does not come from an import itself: a receiver is judged alike with either name as its type,
behind references, in parentheses and in owning types, as a variable, as `self` or as a field. In
general either name of a type may be written just if both get the same verdict, and either name of
a trait just if both or neither are builder traits as they are written. Type aliases play no
part. -/
theorem looksThrough_renamed (index : Index) (name target : String)
    (hname : isOwningWrapper name = false) (htarget : isOwningWrapper target = false) :
    (∀ scope call r, index.resolve scope call = .ok r →
      index.builderCall? scope call = r.map (·.isBuilder)) ∧
    (index.renames.lookup name = some target → index.renames.lookup target = none →
      index.LooksThrough (InPlaceOf name target) Eq) ∧
    (index.LooksThrough (InPlaceOf name target) Eq ↔
      index.nameVerdict name = index.nameVerdict target) ∧
    (index.LooksThrough Eq (InPlaceOf name target) ↔
      index.isBuilderTrait name = index.isBuilderTrait target) ∧
    ∀ aliases scope call,
      ({ index with aliases } : Index).builderCall? scope call =
        index.builderCall? scope call := by
  refine ⟨fun _ _ _ => builderCall?_of_resolve, ?_, looksThrough_types_iff hname htarget,
    looksThrough_traits_iff, ?_⟩
  · intro hrename hlast
    rw [looksThrough_types_iff hname htarget, nameVerdict, nameVerdict, hrename, hlast]
    rfl
  · intro aliases scope call
    have hindex := index.alike_with_aliases Eq Eq aliases
    have hscope := scope.alike_refl Eq Eq
    exact builderCall?_alike hindex hscope (fun _ _ heq => by simp [heq])
      (fun _ _ heq => by rw [heq]) (fieldOwners_alike hindex hscope call.receiver)

/-- A type of builders under the name that an import gives it: as a variable behind a reference and
in an owning type, and as a field of the type of `self`. -/
theorem looksThrough_renamed_field :
    let index (name : String) : Index := ofFiles [⟨"lib.rs", [],
      [.imports [("A", "ApiRoutes")] [],
        .impl (some "ApiRoutes") [] (some "RouteBuilder") [] [],
        .record { name := "Module", fields := [⟨"routes", .reference (.ofName name), []⟩] } []]⟩]
    let scope (name : String) : Scope :=
      { bindings := [("r", .reference (.named {} "Box" true [.ofName name]))]
        self := some (.ofName "Module") }
    let call (receiver : Expr) : Call := ⟨receiver, "map_get", ⟨1, 0⟩, [], []⟩
    let receivers : List Expr :=
      [.path ["r"] [], .field (.path ["self"] []) (some "routes")]
    ∀ receiver ∈ receivers,
      (index "ApiRoutes").builderCall? (scope "ApiRoutes") (call receiver) =
        (index "A").builderCall? (scope "A") (call receiver) ∧
      (index "A").builderCall? (scope "A") (call receiver) = some true := by
  intro index scope call receivers receiver hreceiver
  have hname : TypeExpr.Alike (InPlaceOf "A" "ApiRoutes") Eq (.ofName "A") (.ofName "ApiRoutes") :=
    .named {} false [] (.inr ⟨rfl, rfl⟩)
  have hindex : (index "A").Alike (InPlaceOf "A" "ApiRoutes") Eq (index "ApiRoutes") :=
    ⟨.cons ⟨rfl, .cons ⟨rfl, .reference hname⟩ .nil⟩ .nil, rfl, rfl, rfl, rfl⟩
  have hscope : (scope "A").Alike (InPlaceOf "A" "ApiRoutes") Eq (scope "ApiRoutes") :=
    ⟨.cons ⟨rfl, .reference (.argument {} "Box" true [] hname)⟩ .nil, .some (.same _), .nil⟩
  have hlooks := (looksThrough_renamed (index "A") "A" "ApiRoutes" rfl rfl).2.1 (by decide +kernel)
    (by decide +kernel)
  have hcall (receiver : Expr) := hlooks (index "ApiRoutes") (scope "A") (scope "ApiRoutes")
    (call receiver) hindex hscope (fun _ _ _ _ => ⟨rfl, rfl⟩)
  simp only [receivers, List.mem_cons, List.not_mem_nil, or_false] at hreceiver
  rcases hreceiver with rfl | rfl
  · exact ⟨hcall _ rfl, by decide +kernel⟩
  · exact ⟨hcall _ (by decide +kernel), by decide +kernel⟩

/-- Names that are not looked through: one that an import gives to a trait, as an `impl` or `dyn`
type and as the bound of a type parameter; a type alias; and one that an import gives to a name that
comes from an import itself. A receiver with the name that each stands for is a route builder. -/
theorem builderCall?_of_unseen_names :
    let index : Index := ofFiles [⟨"lib.rs", [],
      [.imports [("Trait", "RouteBuilder"), ("First", "ApiRoutes"), ("Second", "First")] [],
        .impl (some "ApiRoutes") [] (some "RouteBuilder") [] [],
        .typeAlias "Alias" (.ofName "ApiRoutes") []]⟩]
    let verdict (bounds : Bounds) (t : TypeExpr) : Option Bool :=
      index.builderCall? (.ofSignature { name := "f", bounds, params := [⟨some "r", t⟩] } none)
        ⟨.path ["r"] [], "map_get", ⟨1, 0⟩, [], []⟩
    let bound (name : String) := verdict [] (.reference (.bounded [name]))
    let param (name : String) := verdict [("R", [name])] (.reference (.ofName "R"))
    let type (name : String) := verdict [] (.reference (.ofName name))
    index.renames.lookup "Trait" = some "RouteBuilder" ∧
    (bound "Trait" = some false ∧ bound "RouteBuilder" = some true) ∧
    (param "Trait" = some false ∧ param "RouteBuilder" = some true) ∧
    index.aliases.lookup "Alias" = some (.ofName "ApiRoutes") ∧
    (type "Alias" = some false ∧ type "ApiRoutes" = some true) ∧
    index.renames.lookup "Second" = some "First" ∧
    (type "Second" = some false ∧ type "First" = some true) := by
  intro index verdict bound param type
  refine ⟨?_, ⟨?_, ?_⟩, ⟨?_, ?_⟩, rfl, ⟨?_, ?_⟩, ?_, ?_, ?_⟩
  all_goals decide +kernel

end Index

end RouteContract.Source
