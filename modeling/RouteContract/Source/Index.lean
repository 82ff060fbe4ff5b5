import RouteContract.Source.Code
import RouteContract.Text.Basic

/-!
What the files of a service declare, by name. Only declarations at module level count, those of
nested inline modules included. The index also knows which traits and types make a route builder:
the traits that lead to the configured one through their supertraits, and the types that implement
one of them.
-/

namespace RouteContract.Source

inductive TypeDecl where
  | record (decl : RecordDecl Expr)
  | choice (decl : ChoiceDecl Expr)
  deriving Inhabited

namespace TypeDecl

def name : TypeDecl → String
  | record d => d.name
  | choice d => d.name

def attributes : TypeDecl → List (Attribute Expr)
  | record d => d.attributes
  | choice d => d.attributes

end TypeDecl

mutual

/-- The declarations of a list at module level, in order. -/
def moduleItems : List Code → List Code
  | [] => []
  | c :: cs => moduleItemsOf c ++ moduleItems cs

/-- A declaration, or the declarations inside it if it is a module. -/
def moduleItemsOf : Code → List Code
  | .module _ items => moduleItems items
  | c => [c]

end

namespace Code

def typeEntry? : Code → Option (String × TypeDecl)
  | record d _ => some (d.name, .record d)
  | choice d _ => some (d.name, .choice d)
  | _ => none

def aliasEntry? : Code → Option (String × TypeExpr)
  | typeAlias name target _ => some (name, target)
  | _ => none

def renameEntries : Code → List (String × String)
  | imports pairs _ => pairs
  | _ => []

/-- The constants of a declaration. One that belongs to a type is known by the type's name too. -/
def constantEntries : Code → List (String × Expr)
  | constant name _ value => [(name, value)]
  | impl (some self) _ _ _ members => members.filterMap fun m =>
    match m with
    | constant name _ value => some (self ++ "::" ++ name, value)
    | _ => none
  | _ => []

def functionEntry? : Code → Option (String × Signature)
  | function signature _ => some (signature.name, signature)
  | _ => none

/-- The functions of an implementation. -/
def methodEntries : Code → List (String × Signature)
  | impl (some _) _ _ _ members => members.filterMap functionEntry?
  | _ => []

def traitEntry? : Code → Option (String × List String)
  | trait name supers _ _ => some (name, supers)
  | _ => none

/-- The trait and the type of an implementation. -/
def implEntry? : Code → Option (String × String)
  | impl (some self) _ (some traitName) _ _ => some (traitName, self)
  | _ => none

end Code

/-- One round of adding the traits that have a supertrait among the known ones. -/
def growTraits (traits : List (String × List String)) (known : List String) : List String :=
  traits.foldl (fun acc (name, supers) =>
    if supers.any acc.contains && !acc.contains name then acc ++ [name] else acc) known

/-- As many rounds as there are traits find every trait that leads to a known one. -/
def growTraitsWithin (traits : List (String × List String)) : Nat → List String → List String
  | 0, known => known
  | n + 1, known => growTraitsWithin traits n (growTraits traits known)

/-- What a list of files declares. In each list the entry that counts comes first. -/
structure Index where
  types : List (String × TypeDecl) := []
  aliases : List (String × TypeExpr) := []
  /-- New names given by imports, with the names they stand for. -/
  renames : List (String × String) := []
  constants : List (String × Expr) := []
  functions : List (String × Signature) := []
  /-- The trait whose implementors are route builders. -/
  builderTrait : String
  builderTraits : List String
  builderTypes : List String
  deriving Inhabited

namespace Index

/-- The name that marks a route builder unless another one is configured. -/
def defaultBuilderTrait : String := "RouteBuilder"

/-- The index of declarations. The last declaration of a name counts; a function of its own counts
before those of implementations, of which the first counts. -/
def ofItems (builderTrait : String) (items : List Code) : Index :=
  let traits := items.filterMap Code.traitEntry?
  let builderTraits := growTraitsWithin traits traits.length [builderTrait]
  { types := (items.filterMap Code.typeEntry?).reverse
    aliases := (items.filterMap Code.aliasEntry?).reverse
    renames := (items.flatMap Code.renameEntries).reverse
    constants := (items.flatMap Code.constantEntries).reverse
    functions := (items.filterMap Code.functionEntry?).reverse ++ items.flatMap Code.methodEntries
    builderTrait
    builderTraits
    builderTypes := (items.filterMap Code.implEntry?).filterMap fun (traitName, self) =>
      if builderTraits.contains traitName then some self else none }

def ofFiles (files : List SourceFile) (builderTrait : String := defaultBuilderTrait) : Index :=
  ofItems builderTrait (files.flatMap fun f => moduleItems f.items)

/-- A declared type, by its name or by a new name that an import gives it. -/
def lookupType? (index : Index) (name : String) : Option TypeDecl :=
  index.types.lookup name <|> (index.renames.lookup name).bind (index.types.lookup ·)

end Index

end RouteContract.Source
