import RouteContract.Document.Build
import RouteContract.Proofs.Source.Erasure

/-!
What the document of endpoints takes from the sources. Of everything that is declared it reads the
fields of types and nothing else, so that two indices with the same fields describe endpoints alike.
Erasure keeps the fields of all types: their shapes depend on aliases, imports and the names of
types, and their wire names on settings, none of which holds an expression.
-/

namespace RouteContract

open Source

namespace WireSettings

theorem ofAttributes_erase (notes : List (Attribute Expr)) :
    ofAttributes (notes.map eraseAttribute) = ofAttributes notes := by
  have hsettings (note : Attribute Expr) : (eraseAttribute note).settings = note.settings := by
    cases note
    rfl
  simp only [ofAttributes, List.flatMap_map, hsettings]

end WireSettings

theorem docText?_erase (notes : List (Attribute Expr)) :
    docText? (notes.map eraseAttribute) = docText? notes := by
  rw [docText?, docText?, List.filterMap_map]
  congr 2
  refine List.filterMap_congr fun note _ => ?_
  obtain ⟨name, value, arguments, settings⟩ := note
  cases value with
  | none => rfl
  | some value =>
    cases value with
    | invocation name arguments =>
      cases arguments <;>
        simp only [Function.comp_apply, eraseAttribute, eraseOptionalExpr, Expr.erase]
    | _ => simp only [Function.comp_apply, eraseAttribute, eraseOptionalExpr, Expr.erase]

namespace Source.Index

variable (index : Index)

theorem ofName_erase (name : String) : Descriptor.ofName index.erase name = .ofName index name := by
  rw [Descriptor.ofName, Descriptor.ofName, lookupType?_erase]
  cases index.lookupType? name with
  | none => rfl
  | some decl =>
    cases decl with
    | record decl => rfl
    | choice decl => cases decl; rfl

theorem describeWithin_erase (n : Nat) (t : TypeExpr) :
    index.erase.describeWithin n t = index.describeWithin n t := by
  induction n generalizing t with
  | zero => rfl
  | succ n ih =>
    have hinner : index.erase.describeWithin n = index.describeWithin n := funext ih
    have hrole (name : String) (role : Descriptor.Role) :
        index.erase.describeRole (index.describeWithin n) name role =
          index.describeRole (index.describeWithin n) name role := by
      cases role with
      | plain => simp only [describeRole, ofName_erase]
      | _ => rfl
    cases t with
    | reference t => exact ih t
    | paren t => exact ih t
    | sequence t => simp only [describeWithin, ih]
    | named lead name applied arguments =>
      simp only [describeWithin, hinner, hrole, expand_erase]
    | _ => rfl

theorem describe_erase (t : TypeExpr) : index.erase.describe t = index.describe t :=
  index.describeWithin_erase _ t

theorem fieldRecords_erase (inner : String → Except Breakdown (Option (List FieldRecord)))
    (container : WireSettings) (field : Field Expr) :
    index.erase.fieldRecords inner container (eraseField field) =
      index.fieldRecords inner container field := by
  simp only [fieldRecords, fieldRecord, attributes_eraseField, type_eraseField, name_eraseField,
    WireSettings.ofAttributes_erase, docText?_erase, describe_erase]

theorem fieldsWithin_erase (depth : Nat) (name : String) :
    index.erase.fieldsWithin depth name = index.fieldsWithin depth name := by
  rw [fieldsWithin.eq_def, fieldsWithin.eq_def index, lookupType?_erase]
  cases index.lookupType? name with
  | none => rfl
  | some decl =>
    cases decl with
    | choice decl => rfl
    | record decl =>
      simp only [Option.map_some, TypeDecl.erase, fields_eraseRecord, attributes_eraseRecord,
        WireSettings.ofAttributes_erase, List.mapM_map, Function.comp_def, fieldRecords_erase]
      cases depth with
      | zero => rfl
      | succ depth =>
        have hinner : index.erase.fieldsWithin depth = index.fieldsWithin depth :=
          funext (fieldsWithin_erase depth)
        simp only [hinner]

theorem fieldsOf_erase (name : String) : index.erase.fieldsOf name = index.fieldsOf name :=
  index.fieldsWithin_erase flattenDepth name

end Source.Index

section Fields

variable {index index' : Index} (hfields : index'.fieldsOf = index.fieldsOf)
include hfields

theorem Source.Index.fields?_congr : index'.fields? = index.fields? := by
  funext name
  rw [fields?, fields?, hfields]

namespace Assembly

theorem addReachable_congr (a : Assembly) (names : List String) :
    a.addReachable index' names = a.addReachable index names := by
  have hfound (name : String) : index'.fields? name = index.fields? name :=
    congrFun (Index.fields?_congr hfields) name
  fun_induction addReachable index a names with
  | case1 a => rw [addReachable]
  | case2 a name rest component hcomponent ih =>
    rw [addReachable]
    split
    · exact ih
    · next hother => simp [hcomponent] at hother
  | case3 a name rest hnew hnone ih =>
    rw [addReachable]
    split
    · next hother => simp [hnew] at hother
    · split
      · exact ih
      · next hother => simp [hfound, hnone] at hother
  | case4 a name rest hnew fields hsome ih =>
    rw [addReachable]
    split
    · next hother => simp [hnew] at hother
    · split
      · next hother => simp [hfound, hsome] at hother
      · next again hagain =>
        obtain rfl : fields = again := by simpa [hfound, hsome] using hagain
        exact ih

theorem ofEndpoints_congr (es : List Endpoint) : ofEndpoints index' es = ofEndpoints index es := by
  have hadd : add index' = add index := by
    funext a name role
    simp only [add, Index.fields?_congr hfields]
  have hpayloads : addPayloads index' = addPayloads index := by
    funext a e
    rw [addPayloads, addPayloads, hadd]
  simp only [ofEndpoints, addEndpoints, hpayloads, addReachable_congr hfields]

end Assembly

/-- The description of endpoints reads nothing of an index but the fields of types. -/
theorem Generated.ofEndpoints_congr (info : Info) (es : List Endpoint) :
    ofEndpoints index' info es = ofEndpoints index info es := by
  have hbreakdown (a : Assembly) : a.breakdown? index' = a.breakdown? index := by
    rw [Assembly.breakdown?, Assembly.breakdown?, hfields]
  have hwarnings (a : Assembly) : a.warnings index' = a.warnings index := by
    have hfields? := Index.fields?_congr hfields
    refine congrArg (List.flatMap · a.consulted) (funext fun name => ?_)
    rw [Index.fieldWarnings, Index.fieldWarnings, hfields?]
  simp only [ofEndpoints, Assembly.ofEndpoints_congr hfields, hbreakdown, hwarnings]

end Fields

end RouteContract
