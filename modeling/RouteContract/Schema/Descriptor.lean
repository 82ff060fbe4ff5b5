import RouteContract.Source.Alias

/-!
Descriptors: the shape that a type has on the wire. Owning wrappers are looked through, collections
are arrays, maps are opaque objects, enumerations without data are their member names, and every
other named type is a reference.
-/

namespace RouteContract

open Source

inductive PrimitiveKind where
  | integer
  | number
  | boolean
  | string
  deriving DecidableEq, Repr, Inhabited

def PrimitiveKind.name : PrimitiveKind → String
  | integer => "integer"
  | number => "number"
  | boolean => "boolean"
  | string => "string"

inductive Descriptor where
  | primitive (kind : PrimitiveKind) (format : Option String)
  | choice (members : List String)
  | array (items : Descriptor)
  | object
  | reference (name : String)
  deriving DecidableEq, Repr, Inhabited

namespace Descriptor

/-- The type that a descriptor refers to, also as the element of arrays. -/
def referenceName? : Descriptor → Option String
  | reference name => some name
  | array items => items.referenceName?
  | _ => none

/-- Types that have a shape of their own. -/
def ofPrimitive? (name : String) : Option Descriptor :=
  if ["i8", "i16", "i32", "u8", "u16", "u32"].contains name then
    some (primitive .integer (some "int32"))
  else if ["i64", "u64", "i128", "u128", "isize", "usize"].contains name then
    some (primitive .integer (some "int64"))
  else if name == "f32" then some (primitive .number (some "float"))
  else if ["f64", "Decimal", "BigDecimal"].contains name then
    some (primitive .number (some "double"))
  else if name == "bool" then some (primitive .boolean none)
  else if ["String", "str", "char"].contains name then some (primitive .string none)
  else if ["DateTime", "NaiveDateTime", "OffsetDateTime", "PrimitiveDateTime",
      "SystemTime"].contains name then
    some (primitive .string (some "date-time"))
  else if ["NaiveDate", "Date"].contains name then some (primitive .string (some "date"))
  else if ["NaiveTime", "Time", "Duration"].contains name then
    some (primitive .string (some "time"))
  else if name == "Uuid" then some (primitive .string (some "uuid"))
  else if ["Url", "Uri"].contains name then some (primitive .string (some "uri"))
  else none

/-- Wrappers that are not seen on the wire. -/
def isTransparent (name : String) : Bool := ["Box", "Arc", "Rc", "Cow"].contains name

def isCollection (name : String) : Bool :=
  ["Vec", "VecDeque", "HashSet", "BTreeSet", "IndexSet", "LinkedList"].contains name

def isMap (name : String) : Bool := ["HashMap", "BTreeMap", "IndexMap"].contains name

/-- A JSON value of any shape: a type of that name that stands alone or in a JSON library. -/
def isAnyValue (lead : Lead) (name : String) : Bool :=
  name == "Value" && (lead.names.isEmpty || lead.names.contains "serde_json")

/-- What the last name of a path and its first type argument make of a type. -/
inductive Role where
  | optional (inner : TypeExpr)
  | transparent (inner : TypeExpr)
  | collection (inner : TypeExpr)
  | object
  | plain

def role (lead : Lead) (name : String) (arguments : List TypeExpr) : Role :=
  match arguments with
  | inner :: _ =>
    if name == "Option" then .optional inner
    else if isTransparent name then .transparent inner
    else if isCollection name then .collection inner
    else if isMap name || isAnyValue lead name then .object
    else .plain
  | [] => if isMap name || isAnyValue lead name then .object else .plain

/-- The descriptor of a name that is no wrapper. -/
def ofName (index : Index) (name : String) : Descriptor :=
  match ofPrimitive? name with
  | some d => d
  | none =>
    match index.lookupType? name with
    | some (.choice decl) =>
      if decl.variants.all (·.isUnit) then choice (decl.variants.map (·.name)) else reference name
    | _ => reference name

end Descriptor

namespace Source

mutual

/-- The number of names and other constructors in a type. -/
def TypeExpr.size : TypeExpr → Nat
  | .named _ _ _ arguments => typesSize arguments + 1
  | .reference t => t.size + 1
  | .paren t => t.size + 1
  | .sequence t => t.size + 1
  | _ => 1

def typesSize : List TypeExpr → Nat
  | [] => 0
  | t :: ts => t.size + typesSize ts

end

namespace Index

/-- Whether an expansion has come back to the path it started from. Arguments are never changed on
the way from a path to itself, so their presence decides. -/
def samePath : TypeExpr → TypeExpr → Bool
  | .named lead name applied _, .named lead' name' applied' _ =>
    lead.rooted == lead'.rooted && lead.names == lead'.names && name == name' && applied == applied'
  | _, _ => false

/-- Describes a name by its role; `inner` describes the argument of a wrapper. -/
def describeRole (index : Index) (inner : TypeExpr → Except Breakdown (Descriptor × Bool))
    (name : String) : Descriptor.Role → Except Breakdown (Descriptor × Bool)
  | .optional t => do return ((← inner t).1, true)
  | .transparent t => inner t
  | .collection t => do return (.array (← inner t).1, false)
  | .object => return (.object, false)
  | .plain => return (.ofName index name, false)

/-- Describes a type within a number of nested steps; tells also whether it is optional. A name that
stands for another type is described as that type, unless that is no name. -/
def describeWithin (index : Index) : Nat → TypeExpr → Except Breakdown (Descriptor × Bool)
  | 0, _ => .error .endless
  | n + 1, .reference t => index.describeWithin n t
  | n + 1, .paren t => index.describeWithin n t
  | n + 1, .sequence t => do return (.array (← index.describeWithin n t).1, false)
  | n + 1, .named lead name applied arguments => do
    let own :=
      index.describeRole (index.describeWithin n) name (Descriptor.role lead name arguments)
    match ← index.expand (.named lead name applied arguments) with
    | .named lead' name' applied' arguments' =>
      if samePath (.named lead name applied arguments) (.named lead' name' applied' arguments') then
        own
      else index.describeWithin n (.named lead' name' applied' arguments')
    | _ => own
  | _ + 1, _ => return (.object, false)

/-- A number of steps that suffices to describe a type unless its aliases are endless: every step
removes a constructor of the type or of an alias, or follows at most nine names. -/
def describeSteps (index : Index) (t : TypeExpr) : Nat :=
  (t.size + typesSize (index.aliases.map (·.2)) + 2) *
    (index.aliases.length + index.renames.length + 4)

/-- The descriptor of a type, and whether it is optional. -/
def describe (index : Index) (t : TypeExpr) : Except Breakdown (Descriptor × Bool) :=
  index.describeWithin (index.describeSteps t) t

end Index

end Source

end RouteContract
