import RouteContract.Source.Token
import RouteContract.Source.TypeExpr

/-!
The code of a service as far as endpoints depend on it. Expressions that can carry a value, a
receiver or a registration have constructors of their own; of every other construct the parts are
kept in the order in which they are read, so that nothing written inside it is lost.
-/

namespace RouteContract.Source

/-- How a field or a record is written on the wire. -/
inductive Setting where
  | rename (name : String)
  | renameAll (rule : String)
  | skip
  | flatten
  | default
  deriving DecidableEq, Repr, Inhabited

/-- An attribute over a type `ε` of expressions. Its arguments are empty if they are no list of
expressions; its settings are those before the first one that is malformed. -/
structure Attribute (ε : Type) where
  /-- The name, if it is a single one. -/
  name : Option String := none
  /-- What stands after the equals sign. -/
  value : Option ε := none
  arguments : List ε := []
  settings : List Setting := []
  deriving Inhabited

structure Field (ε : Type) where
  name : String
  type : TypeExpr
  attributes : List (Attribute ε) := []
  deriving Inhabited

/-- A record type. Fields without names are not kept. -/
structure RecordDecl (ε : Type) where
  name : String
  attributes : List (Attribute ε) := []
  fields : List (Field ε) := []
  deriving Inhabited

structure Variant where
  name : String
  /-- Whether the variant carries no data. -/
  isUnit : Bool
  deriving DecidableEq, Repr, Inhabited

structure ChoiceDecl (ε : Type) where
  name : String
  attributes : List (Attribute ε) := []
  variants : List Variant := []
  deriving Inhabited

/-- A pattern, as far as it binds one name. -/
inductive Pattern where
  | name (name : String)
  | typed (name : String) (type : TypeExpr)
  /-- A range that has only one of its ends. -/
  | openRange
  | other
  deriving Inhabited

/-- The traits that a type parameter is bound by. -/
abbrev Bounds := List (String × List String)

/-- A parameter of a function other than its receiver; a pattern has no name. -/
structure Param where
  name : Option String
  type : TypeExpr
  deriving Inhabited

structure Signature where
  name : String
  bounds : Bounds := []
  params : List Param := []
  result : Option TypeExpr := none
  deriving Inhabited

mutual

inductive Expr where
  | literal (value : Literal)
  /-- The names of a path; `inner` are the expressions among its generic arguments. -/
  | path (names : List String) (inner : List Expr)
  | call (callee : Expr) (arguments : List Expr)
  | method (receiver : Expr) (name : String) (pos : Pos) (types : List TypeExpr)
      (arguments : List Expr)
  /-- A field access; a field of a tuple has no name. -/
  | field (base : Expr) (name : Option String)
  | reference (target : Expr)
  | paren (inner : Expr)
  | array (elements : List Expr)
  /-- A macro call, with its arguments if they are a list of expressions. -/
  | invocation (name : String) (arguments : Option (List Expr))
  | closure (params : List Pattern) (parts : List Code)
  /-- An assignment, a binary operator or a cast, with its left operand and what follows. -/
  | operation (left : Expr) (right : List Code)
  /-- An expression behind attributes, of which the expressions are kept. -/
  | marked (notes : List Expr) (inner : Expr)
  /-- An expression of a form of which nothing is kept. -/
  | unread
  | other (parts : List Code)

/-- A statement or declaration. The expressions `lead` or `parts` of a declaration are those in
its attributes, types and generic parameters. -/
inductive Code where
  | expr (e : Expr)
  | binding (pattern : Pattern) (lead : List Code) (value : Option Expr) (otherwise : List Code)
  | record (decl : RecordDecl Expr) (parts : List Code)
  | choice (decl : ChoiceDecl Expr) (parts : List Code)
  | typeAlias (name : String) (target : TypeExpr) (parts : List Code)
  | constant (name : String) (lead : List Code) (value : Expr)
  | function (signature : Signature) (parts : List Code)
  /-- The new names that an import gives, each with the name it stands for. -/
  | imports (pairs : List (String × String)) (parts : List Code)
  | module (lead : List Code) (items : List Code)
  | trait (name : String) (supers : List String) (lead members : List Code)
  | impl (self : Option String) (bounds : Bounds) (trait : Option String)
      (lead members : List Code)
  | other (parts : List Code)

end

instance : Inhabited Expr := ⟨.other []⟩
instance : Inhabited Code := ⟨.other []⟩

/-- A method call taken apart. -/
structure Call where
  receiver : Expr
  name : String
  pos : Pos
  types : List TypeExpr
  arguments : List Expr
  deriving Inhabited

namespace Expr

/-- The expression behind its attributes. -/
def bare : Expr → Expr
  | marked _ e => e.bare
  | e => e

/-- Puts the expressions of attributes before an expression. Attributes belong to the leftmost
operand. Those of a method call are never met, and those of a closure are met behind its
parameters. -/
def annotate (notes : List Expr) : Expr → Expr
  | method receiver name pos types arguments => method receiver name pos types arguments
  | unread => unread
  | operation left right => operation (left.annotate notes) right
  | path names inner => path names (notes ++ inner)
  | closure params parts => closure params (notes.map .expr ++ parts)
  | other parts => other (notes.map .expr ++ parts)
  | marked more e => marked (notes ++ more) e
  | e => if notes.isEmpty then e else marked notes e

def call? : Expr → Option Call
  | method receiver name pos types arguments => some ⟨receiver, name, pos, types, arguments⟩
  | _ => none

/-- The calls of a chain, the one nearest to the root first. -/
def chain : Expr → List Call
  | method receiver name pos types arguments =>
    receiver.chain ++ [⟨receiver, name, pos, types, arguments⟩]
  | _ => []

/-- The last name of a path. -/
def lastName? : Expr → Option String
  | path names _ => names.getLast?
  | marked _ e => e.lastName?
  | _ => none

end Expr

/-- A source file that has been read; `lead` are the expressions in its attributes. -/
structure SourceFile where
  path : String
  lead : List Code := []
  items : List Code
  deriving Inhabited

end RouteContract.Source
