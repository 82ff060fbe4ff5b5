import RouteContract.Proofs.Source.Translation
import RouteContract.Proofs.Table

/-!
Code without the type arguments of its registrations. Erasure also forgets the columns in which
calls stand, since they move with the length of a name on their line. Everything that the sources
say besides survives it: the texts, verbs, statuses and handlers that expressions stand for, the
declared type of a receiver, and the settings of an endpoint. Two services with one erasure differ
in how the types of registrations are written, and in nothing else.
-/

namespace RouteContract

namespace Source

/-- The type arguments of a call, unless it is a registration. -/
def eraseTypes (method : String) (types : List TypeExpr) : List TypeExpr :=
  if (verbSource? method).isSome then [] else types

def Pos.erase (pos : Pos) : Pos := ⟨pos.line, 0⟩

mutual

def Expr.erase : Expr → Expr
  | .literal value => .literal value
  | .path names inner => .path names (eraseExprs inner)
  | .call callee arguments => .call callee.erase (eraseExprs arguments)
  | .method receiver name pos types arguments =>
    .method receiver.erase name pos.erase (eraseTypes name types) (eraseExprs arguments)
  | .field base name => .field base.erase name
  | .reference e => .reference e.erase
  | .paren e => .paren e.erase
  | .array es => .array (eraseExprs es)
  | .invocation name none => .invocation name none
  | .invocation name (some es) => .invocation name (some (eraseExprs es))
  | .closure params parts => .closure params (eraseCodes parts)
  | .operation left right => .operation left.erase (eraseCodes right)
  | .marked notes e => .marked (eraseExprs notes) e.erase
  | .unread => .unread
  | .other parts => .other (eraseCodes parts)

def eraseExprs : List Expr → List Expr
  | [] => []
  | e :: es => e.erase :: eraseExprs es

def eraseOptionalExpr : Option Expr → Option Expr
  | none => none
  | some e => some e.erase

def eraseAttribute : Attribute Expr → Attribute Expr
  | ⟨name, value, arguments, settings⟩ =>
    ⟨name, eraseOptionalExpr value, eraseExprs arguments, settings⟩

def eraseAttributes : List (Attribute Expr) → List (Attribute Expr)
  | [] => []
  | note :: notes => eraseAttribute note :: eraseAttributes notes

def eraseField : Field Expr → Field Expr
  | ⟨name, type, attributes⟩ => ⟨name, type, eraseAttributes attributes⟩

def eraseFields : List (Field Expr) → List (Field Expr)
  | [] => []
  | field :: fields => eraseField field :: eraseFields fields

def eraseRecord : RecordDecl Expr → RecordDecl Expr
  | ⟨name, attributes, fields⟩ => ⟨name, eraseAttributes attributes, eraseFields fields⟩

def eraseChoice : ChoiceDecl Expr → ChoiceDecl Expr
  | ⟨name, attributes, variants⟩ => ⟨name, eraseAttributes attributes, variants⟩

-- The expressions in the attributes of a type stand in its declaration and among its parts.
def Code.erase : Code → Code
  | .expr e => .expr e.erase
  | .binding p lead value otherwise =>
    .binding p (eraseCodes lead) (eraseOptionalExpr value) (eraseCodes otherwise)
  | .record decl parts => .record (eraseRecord decl) (eraseCodes parts)
  | .choice decl parts => .choice (eraseChoice decl) (eraseCodes parts)
  | .typeAlias name target parts => .typeAlias name target (eraseCodes parts)
  | .constant name lead value => .constant name (eraseCodes lead) value.erase
  | .function signature parts => .function signature (eraseCodes parts)
  | .imports pairs parts => .imports pairs (eraseCodes parts)
  | .module lead items => .module (eraseCodes lead) (eraseCodes items)
  | .trait name supers lead members =>
    .trait name supers (eraseCodes lead) (eraseCodes members)
  | .impl self bounds trait lead members =>
    .impl self bounds trait (eraseCodes lead) (eraseCodes members)
  | .other parts => .other (eraseCodes parts)

def eraseCodes : List Code → List Code
  | [] => []
  | c :: cs => c.erase :: eraseCodes cs

end

def SourceFile.erase (f : SourceFile) : SourceFile :=
  { f with lead := eraseCodes f.lead, items := eraseCodes f.items }

def Call.erase (call : Call) : Call :=
  ⟨call.receiver.erase, call.name, call.pos.erase, eraseTypes call.name call.types,
    call.arguments.map Expr.erase⟩

def TypeDecl.erase : TypeDecl → TypeDecl
  | .record decl => .record (eraseRecord decl)
  | .choice decl => .choice (eraseChoice decl)

@[simp] theorem eraseExprs_eq_map (es : List Expr) : eraseExprs es = es.map Expr.erase := by
  induction es with
  | nil => rfl
  | cons e es ih => exact congrArg (e.erase :: ·) ih

@[simp] theorem eraseOptionalExpr_eq_map (e : Option Expr) :
    eraseOptionalExpr e = e.map Expr.erase := by
  cases e <;> rfl

@[simp] theorem eraseAttributes_eq_map (notes : List (Attribute Expr)) :
    eraseAttributes notes = notes.map eraseAttribute := by
  induction notes with
  | nil => rfl
  | cons note notes ih => exact congrArg (eraseAttribute note :: ·) ih

@[simp] theorem eraseFields_eq_map (fields : List (Field Expr)) :
    eraseFields fields = fields.map eraseField := by
  induction fields with
  | nil => rfl
  | cons field fields ih => exact congrArg (eraseField field :: ·) ih

@[simp] theorem eraseCodes_eq_map (cs : List Code) : eraseCodes cs = cs.map Code.erase := by
  induction cs with
  | nil => rfl
  | cons c cs ih => exact congrArg (c.erase :: ·) ih

@[simp] theorem name_eraseField (field : Field Expr) : (eraseField field).name = field.name := by
  cases field
  rfl

@[simp] theorem type_eraseField (field : Field Expr) : (eraseField field).type = field.type := by
  cases field
  rfl

@[simp] theorem attributes_eraseField (field : Field Expr) :
    (eraseField field).attributes = field.attributes.map eraseAttribute := by
  obtain ⟨name, type, attributes⟩ := field
  exact eraseAttributes_eq_map attributes

@[simp] theorem attributes_eraseRecord (decl : RecordDecl Expr) :
    (eraseRecord decl).attributes = decl.attributes.map eraseAttribute := by
  obtain ⟨name, attributes, fields⟩ := decl
  exact eraseAttributes_eq_map attributes

@[simp] theorem fields_eraseRecord (decl : RecordDecl Expr) :
    (eraseRecord decl).fields = decl.fields.map eraseField := by
  obtain ⟨name, attributes, fields⟩ := decl
  exact eraseFields_eq_map fields

@[simp] theorem TypeDecl.attributes_erase (decl : TypeDecl) :
    decl.erase.attributes = decl.attributes.map eraseAttribute := by
  cases decl with
  | record decl => exact attributes_eraseRecord decl
  | choice decl =>
    obtain ⟨name, attributes, variants⟩ := decl
    exact eraseAttributes_eq_map attributes

namespace Expr

theorem bare_erase (e : Expr) : e.erase.bare = e.bare.erase := by
  cases e with
  | marked notes e => simpa only [erase, bare] using bare_erase e
  | invocation name arguments => cases arguments <;> rfl
  | _ => rfl

@[simp] theorem lastName?_erase (e : Expr) : e.erase.lastName? = e.lastName? := by
  cases e with
  | marked notes e => simpa only [erase, lastName?] using lastName?_erase e
  | invocation name arguments => cases arguments <;> rfl
  | _ => rfl

theorem chain_erase (e : Expr) : e.erase.chain = e.chain.map Call.erase := by
  cases e with
  | method receiver name pos types arguments =>
    simp only [erase, chain, chain_erase receiver, List.map_append, List.map_singleton, Call.erase,
      eraseExprs_eq_map]
  | invocation name arguments => cases arguments <;> rfl
  | _ => rfl

end Expr

mutual

theorem moduleItems_erase (cs : List Code) :
    moduleItems (eraseCodes cs) = (moduleItems cs).map Code.erase := by
  cases cs with
  | nil => rfl
  | cons c cs =>
    rw [eraseCodes, moduleItems, moduleItems, List.map_append, moduleItemsOf_erase c,
      moduleItems_erase cs]

theorem moduleItemsOf_erase (c : Code) :
    moduleItemsOf c.erase = (moduleItemsOf c).map Code.erase := by
  cases c with
  | module lead items => exact moduleItems_erase items
  | _ => rfl

end

namespace Code

theorem typeEntry?_erase (c : Code) :
    c.erase.typeEntry? = c.typeEntry?.map fun entry => (entry.1, entry.2.erase) := by
  cases c with
  | record decl parts => cases decl; rfl
  | choice decl parts => cases decl; rfl
  | _ => rfl

theorem aliasEntry?_erase (c : Code) : c.erase.aliasEntry? = c.aliasEntry? := by
  cases c <;> rfl

theorem renameEntries_erase (c : Code) : c.erase.renameEntries = c.renameEntries := by
  cases c <;> rfl

theorem functionEntry?_erase (c : Code) : c.erase.functionEntry? = c.functionEntry? := by
  cases c <;> rfl

theorem traitEntry?_erase (c : Code) : c.erase.traitEntry? = c.traitEntry? := by
  cases c <;> rfl

theorem implEntry?_erase (c : Code) : c.erase.implEntry? = c.implEntry? := by
  cases c with
  | impl self bounds trait lead members => cases self <;> cases trait <;> rfl
  | _ => rfl

theorem constantEntries_erase (c : Code) :
    c.erase.constantEntries = c.constantEntries.map fun entry => (entry.1, entry.2.erase) := by
  cases c with
  | constant name lead value => rfl
  | impl self bounds trait lead members =>
    cases self with
    | none => rfl
    | some self =>
      simp only [erase, constantEntries, eraseCodes_eq_map, List.filterMap_map, List.map_filterMap]
      refine List.filterMap_congr fun member _ => ?_
      cases member <;> rfl
  | _ => rfl

theorem methodEntries_erase (c : Code) : c.erase.methodEntries = c.methodEntries := by
  cases c with
  | impl self bounds trait lead members =>
    cases self with
    | none => rfl
    | some self =>
      simp only [erase, methodEntries, eraseCodes_eq_map, List.filterMap_map, Function.comp_def,
        functionEntry?_erase]
  | _ => rfl

end Code

namespace Index

def erase (index : Index) : Index :=
  { index with
    types := index.types.map fun entry => (entry.1, entry.2.erase)
    constants := index.constants.map fun entry => (entry.1, entry.2.erase) }

theorem ofItems_erase (builderTrait : String) (items : List Code) :
    ofItems builderTrait (items.map Code.erase) = (ofItems builderTrait items).erase := by
  simp only [ofItems, erase, List.filterMap_map, List.flatMap_map, Function.comp_def,
    Code.typeEntry?_erase, Code.aliasEntry?_erase, Code.renameEntries_erase,
    Code.constantEntries_erase, Code.functionEntry?_erase, Code.methodEntries_erase,
    Code.traitEntry?_erase, Code.implEntry?_erase, List.map_reverse, List.map_filterMap,
    List.map_flatMap]

theorem ofFiles_erase (files : List SourceFile) (builderTrait : String) :
    ofFiles (files.map SourceFile.erase) builderTrait = (ofFiles files builderTrait).erase := by
  have hitems : (files.map SourceFile.erase).flatMap (fun f => moduleItems f.items) =
      (files.flatMap fun f => moduleItems f.items).map Code.erase := by
    rw [List.flatMap_map, List.map_flatMap]
    exact List.flatMap_congr fun f _ => moduleItems_erase f.items
  rw [ofFiles, ofFiles, hitems, ofItems_erase]

theorem lookupType?_erase (index : Index) (name : String) :
    index.erase.lookupType? name = (index.lookupType? name).map TypeDecl.erase := by
  have hlookup (name : String) :
      index.erase.types.lookup name = (index.types.lookup name).map TypeDecl.erase :=
    Table.lookup_map_snd TypeDecl.erase index.types name
  have hrenames : index.erase.renames = index.renames := rfl
  rw [lookupType?, lookupType?, hlookup, hrenames]
  cases index.types.lookup name with
  | some decl => rfl
  | none =>
    cases index.renames.lookup name with
    | none => rfl
    | some old => simpa using hlookup old

theorem constantExpr?_erase (index : Index) (names : List String) :
    index.erase.constantExpr? names = (index.constantExpr? names).map Expr.erase := by
  rw [constantExpr?, constantExpr?, List.map_findSome?]
  refine congrArg (List.findSome? · _) (funext fun name => ?_)
  exact Table.lookup_map_snd Expr.erase index.constants name

theorem forall₂_erase (es : List Expr) :
    List.Forall₂ (fun e e' => e' = e.erase) es (es.map Expr.erase) :=
  forall₂_map_right_of fun _ => rfl

/-- Erasure translates the code of an index, its constants among it. -/
theorem translates_erase (index : Index) :
    index.Translates index.erase fun e e' => e' = e.erase := by
  have hlist (es : List Expr) : List.Forall₂ (fun e e' => e' = e.erase) es (eraseExprs es) :=
    eraseExprs_eq_map es ▸ forall₂_erase es
  rintro e _ rfl
  cases e with
  | literal value => exact .literal value
  | path names inner =>
    refine .path ⟨rel_of_eq (fun _ => ⟨rfl, rfl, rfl⟩) _, ?_⟩
    rw [constantExpr?_erase]
    cases index.constantExpr? names with
    | none => exact .none
    | some e => exact .some rfl
  | reference e => exact .reference rfl
  | paren e => exact .paren rfl
  | array es => exact .array (hlist es)
  | invocation name arguments =>
    cases arguments with
    | none => exact .unreadInvocation name
    | some es => exact .invocation name (hlist es)
  | marked notes e => exact .marked rfl
  | _ => exact .mute rfl rfl

@[simp] theorem constant?_erase (index : Index) (e : Expr) :
    index.erase.constant? e.erase = index.constant? e :=
  index.translates_erase.constant? rfl

theorem handlerTypes_erase (index : Index) (arguments : List Expr) :
    index.erase.handlerTypes (arguments.map Expr.erase) = index.handlerTypes arguments :=
  index.translates_erase.handlerTypes (forall₂_erase arguments)

theorem expandWithin_erase (index : Index) (n : Nat) (t : TypeExpr) :
    index.erase.expandWithin n t = index.expandWithin n t := by
  induction n generalizing t with
  | zero => rfl
  | succ n ih =>
    have hstep : index.erase.step t = index.step t := by cases t <;> rfl
    simp only [expandWithin, hstep, ih]

@[simp] theorem expand_erase (index : Index) (t : TypeExpr) :
    index.erase.expand t = index.expand t :=
  index.expandWithin_erase expansionSteps t

theorem fieldType?_erase (index : Index) (owner field : String) :
    index.erase.fieldType? owner field = index.fieldType? owner field := by
  have hlookup : index.erase.types.lookup owner = _ :=
    Table.lookup_map_snd TypeDecl.erase index.types owner
  rw [fieldType?, fieldType?, hlookup]
  cases index.types.lookup owner with
  | none => rfl
  | some decl =>
    cases decl with
    | choice decl => rfl
    | record decl =>
      simp only [Option.map_some, TypeDecl.erase, fields_eraseRecord, List.find?_map,
        Option.map_map, Function.comp_def, name_eraseField, type_eraseField]

theorem receiverType?_erase (index : Index) (scope : Scope) (e : Expr) :
    index.erase.receiverType? scope e.erase = index.receiverType? scope e := by
  cases e with
  | path names inner =>
    match names with
    | [] => rfl
    | [name] => rfl
    | _ :: _ :: _ => rfl
  | call callee arguments =>
    cases callee with
    | invocation name arguments => cases arguments <;> rfl
    | _ => rfl
  | method receiver name pos types arguments => exact receiverType?_erase index scope receiver
  | field base member =>
    have hbase := receiverType?_erase index scope base
    simp only [Expr.erase, receiverType?, hbase, fieldType?_erase]
  | reference e => exact receiverType?_erase index scope e
  | paren e => exact receiverType?_erase index scope e
  | marked notes e => exact receiverType?_erase index scope e
  | invocation name arguments => cases arguments <;> rfl
  | _ => rfl

theorem isBuilder_erase (index : Index) (scope : Scope) (t : TypeExpr) :
    index.erase.isBuilder scope t = index.isBuilder scope t := by
  cases t with
  | reference t => exact isBuilder_erase index scope t
  | paren t => exact isBuilder_erase index scope t
  | named lead name applied arguments =>
    cases arguments with
    | nil => rfl
    | cons t arguments =>
      have hfirst := isBuilder_erase index scope t
      simp only [isBuilder, hfirst]
      rfl
  | _ => rfl

end Index

end Source

open Source

namespace Metadata

variable (index : Index)

/-- A registration says nothing about the endpoint of another one. -/
theorem applyCall_of_registers (oracle : Oracle) (m : Metadata) (call : Call)
    (hverb : verbSource? call.name ≠ none) : applyCall oracle m call = m := by
  obtain ⟨receiver, name, pos, types, arguments⟩ := call
  replace hverb : verbSource? name ≠ none := hverb
  fun_cases verbSource? name with
  | case7 => simp_all [verbSource?]
  | _ => rfl

theorem applyCall_erase (m : Metadata) (call : Call) :
    applyCall index.erase m call.erase = applyCall index m call := by
  by_cases hverb : verbSource? call.name = none
  · have htypes : eraseTypes call.name call.types = call.types := by simp [eraseTypes, hverb]
    exact applyCall_of_translates index.translates_erase rfl htypes
      (Index.forall₂_erase call.arguments)
  · have herased := applyCall_of_registers index.erase m call.erase hverb
    exact herased.trans (applyCall_of_registers index m call hverb).symm

theorem ofCalls_erase (calls : List Call) :
    ofCalls index.erase (calls.map Call.erase) = ofCalls index calls := by
  rw [ofCalls, List.foldl_map]
  simp only [applyCall_erase]
  rfl

theorem applyAttribute_erase (m : Metadata) (note : Attribute Expr) :
    applyAttribute index.erase m (eraseAttribute note) = applyAttribute index m note := by
  obtain ⟨name, value, arguments, settings⟩ := note
  have harguments := Index.forall₂_erase arguments
  have htext := funext (textArgument?_of_translates index.translates_erase harguments)
  have hstatus := funext (statusArgument?_of_translates index.translates_erase harguments)
  have htype : (arguments.map Expr.erase)[1]?.bind Expr.lastName? =
      arguments[1]?.bind Expr.lastName? := by
    rw [List.getElem?_map]
    cases arguments[1]? <;> simp
  simp only [applyAttribute, eraseAttribute, eraseExprs_eq_map, htext, hstatus, htype,
    textLists_of_translates index.translates_erase harguments]

theorem ofAttributes_erase (notes : List (Attribute Expr)) :
    ofAttributes index.erase (notes.map eraseAttribute) = ofAttributes index notes := by
  rw [ofAttributes, List.foldl_map]
  simp only [applyAttribute_erase]
  rfl

theorem ofEndpoint_erase (calls : List Call) (requestType : String) :
    ofEndpoint index.erase (calls.map Call.erase) requestType =
      ofEndpoint index calls requestType := by
  simp only [ofEndpoint, Index.lookupType?_oracle, Index.lookupType?_erase, ofCalls_erase]
  cases index.lookupType? requestType with
  | none => rfl
  | some decl =>
    simp only [Option.map_some, TypeDecl.attributes_erase, ofAttributes_erase]

end Metadata

end RouteContract
