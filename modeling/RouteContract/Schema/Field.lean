import RouteContract.Schema.Descriptor
import RouteContract.Text.Words

/-!
The fields that a declared record has on the wire: their names, their shapes, and whether they may
be left out. A flattened field stands for the fields of the record it refers to.
-/

namespace RouteContract

open Source

/-- One field of a record on the wire. -/
structure FieldRecord where
  /-- The name as declared. -/
  sourceName : String
  wireName : String
  descriptor : Descriptor
  /-- Whether the field is optional. -/
  nullable : Bool
  hasDefault : Bool
  description : Option String := none
  /-- A rule for names that the record asks for and that is not known. -/
  unknownRule : Option String := none
  deriving DecidableEq, Repr, Inhabited

namespace FieldRecord

/-- A field must be present unless it is optional or has a default. -/
def required (f : FieldRecord) : Bool := !f.nullable && !f.hasDefault

/-- The members of an enumeration. -/
def enumValues (f : FieldRecord) : List String :=
  match f.descriptor with
  | .choice members => members
  | _ => []

def warning? (f : FieldRecord) : Option String :=
  f.unknownRule.map fun rule =>
    "Unknown rename_all rule '" ++ rule ++ "', keeping field name " ++ f.sourceName

end FieldRecord

/-- The settings of a field or a record taken together. -/
structure WireSettings where
  rename : Option String := none
  renameAll : Option String := none
  skip : Bool := false
  flatten : Bool := false
  default : Bool := false

namespace WireSettings

def apply (s : WireSettings) : Setting → WireSettings
  | .rename name => { s with rename := some name }
  | .renameAll rule => { s with renameAll := some rule }
  | .skip => { s with skip := true }
  | .flatten => { s with flatten := true }
  | .default => { s with default := true }

/-- The settings of attributes; a later one wins. -/
def ofAttributes (attributes : List (Attribute Expr)) : WireSettings :=
  (attributes.flatMap (·.settings)).foldl apply {}

end WireSettings

/-- How a rule for names writes a name; none if the rule is not known. Without a rule words are
joined by capitals. -/
def renameBy? (rule : Option String) (name : String) : Option String :=
  match rule with
  | none | some "camelCase" => some (Text.lowerCamel name)
  | some "snake_case" => some (Text.lowerJoined '_' name)
  | some "PascalCase" => some (Text.upperCamel name)
  | some "SCREAMING_SNAKE_CASE" => some (Text.upperJoined '_' name)
  | some "kebab-case" => some (Text.lowerJoined '-' name)
  | some "SCREAMING-KEBAB-CASE" => some (Text.upperJoined '-' name)
  | some "lowercase" => some (Text.lower name)
  | some "UPPERCASE" => some (Text.upper name)
  | some _ => none

/-- The text of documenting comments: their lines that are not blank, joined. -/
def docText? (attributes : List (Attribute Expr)) : Option String :=
  let lines := attributes.filterMap fun a =>
    match a.name, a.value with
    | some "doc", some (.literal (.text s)) => some (Text.trim s)
    | _, _ => none
  match lines.filter (!·.isEmpty) with
  | [] => none
  | lines => some (" ".intercalate lines)

/-- A declared name without its raw mark. -/
def plainName (name : String) : String := (Text.dropLead? "r#" name).getD name

namespace Source.Index

/-- The record of a field that is not flattened. -/
def fieldRecord (container own : WireSettings) (field : Field Expr) (descriptor : Descriptor)
    (nullable : Bool) : FieldRecord :=
  let sourceName := plainName field.name
  let byRule := renameBy? container.renameAll sourceName
  { sourceName
    wireName := own.rename.getD (byRule.getD sourceName)
    descriptor
    nullable
    hasDefault := own.default || container.default
    description := docText? field.attributes
    unknownRule := if own.rename.isNone && byRule.isNone then container.renameAll else none }

/-- The records of one field; `inner` answers the fields of a type that may be inlined. -/
def fieldRecords (index : Index) (inner : String → Except Breakdown (Option (List FieldRecord)))
    (container : WireSettings) (field : Field Expr) : Except Breakdown (List FieldRecord) := do
  let own := WireSettings.ofAttributes field.attributes
  if own.skip then return []
  else
    let (descriptor, nullable) ← index.describe field.type
    let inlined ← match own.flatten, descriptor.referenceName? with
      | true, some name => inner name
      | _, _ => pure none
    match inlined with
    | some fields => return fields
    | none => return [fieldRecord container own field descriptor nullable]

/-- The fields of a type, with records inlined down to a depth; none if it is no record of the
sources. -/
def fieldsWithin (index : Index) (depth : Nat) (typeName : String) :
    Except Breakdown (Option (List FieldRecord)) :=
  match index.lookupType? typeName with
  | some (.record decl) => do
    let container := WireSettings.ofAttributes decl.attributes
    let inner := match depth with
      | 0 => fun _ => pure none
      | d + 1 => index.fieldsWithin d
    let fields ← decl.fields.mapM (index.fieldRecords inner container)
    return some fields.flatten
  | _ => return none

/-- The depth down to which records are inlined. -/
def flattenDepth : Nat := 8

/-- The fields of a type of the sources. -/
def fieldsOf (index : Index) (typeName : String) : Except Breakdown (Option (List FieldRecord)) :=
  index.fieldsWithin flattenDepth typeName

/-- A name that is not declared has no fields. -/
theorem fieldsOf_of_lookupType?_eq_none {index : Index} {typeName : String}
    (unknown : index.lookupType? typeName = none) : index.fieldsOf typeName = .ok none := by
  rw [fieldsOf, fieldsWithin.eq_def, unknown]
  rfl

/-- The fields of a type of the sources, as far as its aliases can be followed. -/
def fields? (index : Index) (typeName : String) : Option (List FieldRecord) :=
  match index.fieldsOf typeName with
  | .ok fields => fields
  | .error _ => none

/-- The warnings about the fields of a type. -/
def fieldWarnings (index : Index) (typeName : String) : List String :=
  ((index.fields? typeName).getD []).filterMap (·.warning?)

end Source.Index

end RouteContract
