import RouteContract.Source.Grammar.Expression

/-!
Declarations and statements. A declaration that is written in a way only a macro would accept is
read to its end and declares nothing.
-/

namespace RouteContract.Source.Grammar

open Rule

/-- The visibility of a declaration; true if there is one. -/
def visibility : Rule Bool := do
  if ← tryWord "pub" then
    match ← rest with
    | .group .paren inner :: _ =>
      match inner with
      | [.word w _] => if ["crate", "self", "super"].contains w then skip 1
      | .word "in" _ :: path => if (readAll plainPath path).isSome then skip 1 else failure
      | _ => pure ()
    | _ => pure ()
    return true
  else return false

/-- Whether a function begins here, behind its qualifiers; `safe` tells whether that word can be
one of them. -/
def beginsFunction (safe : Bool) (ts : List Tree) : Bool :=
  let strip (w : String) (ts : List Tree) := if isWord w ts then ts.drop 1 else ts
  let ts := strip "async" (strip "const" ts)
  let ts := if safe && isWord "safe" ts then ts.drop 1 else strip "unsafe" ts
  let ts := if isWord "extern" ts then
      if isText (ts.drop 1) then ts.drop 2 else ts.drop 1
    else ts
  isWord "fn" ts

/-- The receiver of a method. -/
def receiver (g : Grammar) : Rule Unit := do
  let borrowed ← tryMarks "&"
  if borrowed then
    let _ ← tryLifetime
  let _ ← tryWord "mut"
  eatWord "self"
  if !borrowed && (← tryMarks ":") then
    let _ ← g.type true

/-- What stands between the commas of a parameter list. -/
inductive Argument where
  | receiver
  | param (p : Param)
  | rest

def argument (g : Grammar) : Rule Argument := do
  let _ ← g.attributes
  if ← tryMarks "..." then return .rest
  match ← attempt g.receiver with
  | some _ => return .receiver
  | none =>
    let ts ← Rule.rest
    if isName ts && isMarks "<" (ts.drop 1) then
      return .param ⟨none, ← g.type true⟩
    else
      let p ← g.pattern
      eatMarks ":"
      if ← tryMarks "..." then return .rest
      let t ← g.type true
      match p with
      | .name n => return .param ⟨some n, t⟩
      | _ => return .param ⟨none, t⟩

/-- A list of arguments may have a receiver at its start only, and dots at its end only. -/
def isArgumentList : List Argument → Bool
  | [] => true
  | _ :: more => go more
where
  go : List Argument → Bool
    | [] => true
    | .receiver :: _ => false
    | _ :: more => go more

/-- The parameters of a function, without its receiver. -/
def parameters (g : Grammar) : Rule (List Param) :=
  inside .paren do
    let all ← separated g.argument
    guard (isArgumentList all && all.dropLast.all fun a => match a with
      | .rest => false
      | _ => true)
    return all.filterMap fun a => match a with
      | .param p => some p
      | _ => none

/-- A signature, and whether the word `safe` qualifies it. Conditions are noted before parameters
and result. -/
def qualifiedSignature (g : Grammar) (safe : Bool) : Rule (Signature × Bool) := do
  let _ ← tryWord "const"
  let _ ← tryWord "async"
  let isSafe ← (do if safe then tryWord "safe" else return false)
  if !isSafe then
    let _ ← tryWord "unsafe"
  tryAbi
  eatWord "fn"
  let name ← name
  let bounds ← g.generics
  let ((params, result), inner) ← collect do
    let params ← g.parameters
    return (params, ← g.result)
  let conditions ← g.conditions
  note inner
  return ({ name, bounds := bounds ++ conditions, params, result }, isSafe)

def signature (g : Grammar) : Rule Signature := do
  return (← g.qualifiedSignature false).1

/-- A field with a name. One that is named by an underscore may hold the fields of a record, of
which nothing is kept. -/
def namedField (g : Grammar) : Rule (Field Expr) := do
  let attributes ← g.attributes
  let _ ← visibility
  let name ← nameOrUnderscore
  eatMarks ":"
  let ts ← rest
  if name == "_" && (isWord "struct" ts || (isWord "union" ts && isGroup .brace (ts.drop 1))) then
    skip 1
    let _ ← unnoted g.fields
    return { name, type := .other, attributes }
  else return { name, type := ← g.type true, attributes }

def fieldsRule (g : Grammar) : Rule (List (Field Expr)) :=
  inside .brace (separated g.namedField)

/-- Fields without names. -/
def tupleFields (g : Grammar) : Rule Unit :=
  inside .paren do
    let _ ← separated do
      let _ ← g.attributes
      let _ ← visibility
      g.type true

/-- The value after an equals sign, if there is one. -/
def initial (g : Grammar) : Rule (Option Expr) := do
  if ← tryMarks "=" then return some (← g.expr true).code else return none

/-- The body of a function, or a semicolon where it is left out. -/
def functionRest (g : Grammar) (signature : Signature) (noted more : List Code) (bodiless : Code) :
    Rule Code := do
  if ← tryMarks ";" then return bodiless
  else
    let body ← g.block
    return .function signature (noted ++ body.noted ++ more ++ body.statements)

def structItem (g : Grammar) (attributes : List (Attribute Expr)) (noted : List Code) :
    Rule Code := do
  eatWord "struct"
  let name ← name
  let (fields, more) ← collectCode do
    let _ ← g.generics
    let conditional ← peek (isWord "where")
    let _ ← g.conditions
    let ts ← rest
    if isGroup .brace ts then g.fields
    else
      if isGroup .paren ts && !conditional then
        let (_, inner) ← collect g.tupleFields
        let _ ← g.conditions
        note inner
      eatMarks ";"
      return []
  return .record { name, attributes, fields } (noted ++ more)

def variant (g : Grammar) : Rule Variant := do
  let _ ← g.attributes
  let _ ← visibility
  let name ← name
  let ts ← rest
  let isUnit ← (do
    if isGroup .brace ts then
      let _ ← g.fields
      return false
    else if isGroup .paren ts then
      g.tupleFields
      return false
    else return true)
  if ← tryMarks "=" then g.embedded
  return { name, isUnit }

def enumItem (g : Grammar) (attributes : List (Attribute Expr)) (noted : List Code) :
    Rule Code := do
  eatWord "enum"
  let name ← name
  let (variants, more) ← collectCode do
    let _ ← g.generics
    let _ ← g.conditions
    inside .brace (separated g.variant)
  return .choice { name, attributes, variants } (noted ++ more)

def unionItem (g : Grammar) (noted : List Code) : Rule Code := do
  eatWord "union"
  let (_, more) ← collectCode do
    let _ ← name
    let _ ← g.generics
    let _ ← g.conditions
    g.fields
  return .other (noted ++ more)

/-- The declaration of a type, with the expressions in its parameters and conditions, in its bounds
and in its definition. -/
structure TypeText where
  name : String
  bounded : Bool
  target : Option TypeExpr
  inParams : List Code
  inBounds : List Code
  inTarget : List Code

/-- The declaration of a type. The flags tell whether conditions may stand before the definition
and after it; they stand in one place only. -/
def typeText (g : Grammar) (early late : Bool) : Rule TypeText := do
  eatWord "type"
  let name ← name
  let (_, inParams) ← collectCode g.generics
  let bounded ← tryMarks ":"
  let (_, inBounds) ← collectCode (do
    let stop (ts : List Tree) := isWord "where" ts || isMarks "=" ts || isMarks ";" ts
    if bounded then separatedUntil stop "+" (g.bound .ofColon) else return [])
  let first ← peek fun ts => early && isWord "where" ts
  let (_, before) ← collectCode (do if first then g.conditions else return [])
  let (target, inTarget) ← collectCode (do
    if ← tryMarks "=" then return some (← g.type true) else return none)
  let (_, after) ← collectCode (do if late && !first then g.conditions else return [])
  eatMarks ";"
  return { name, bounded, target, inParams := inParams ++ before ++ after, inBounds, inTarget }

/-- An alias. One with bounds or without a definition declares nothing. -/
def aliasItem (g : Grammar) (noted : List Code) : Rule Code := do
  let t ← g.typeText true false
  match t.target, t.bounded with
  | some target, false => return .typeAlias t.name target (noted ++ t.inParams ++ t.inTarget)
  | _, _ => return .other []

/-- A constant. One with generic parameters or without a value declares nothing. -/
def constItem (g : Grammar) (noted : List Code) (valueless : List Code → Code) : Rule Code := do
  eatWord "const"
  let name ← nameOrUnderscore
  let generic ← peek (isMarks "<")
  let (_, more) ← collectCode do
    let _ ← g.generics
    eatMarks ":"
    g.type true
  let value ← g.initial
  let conditional ← peek (isWord "where")
  let _ ← g.conditions
  eatMarks ";"
  if generic || conditional then return .other []
  else
    match value with
    | some v => return .constant name (noted ++ more) v
    | none => return valueless (noted ++ more)

/-- A static variable. One without a type or a value declares nothing. -/
def staticItem (g : Grammar) (noted : List Code) : Rule Code := do
  eatWord "static"
  let _ ← tryWord "mut"
  let name ← name
  if ← tryMarks "=" then
    let _ ← g.expr true
    eatMarks ";"
    return .other []
  else
    eatMarks ":"
    let (_, more) ← collectCode (g.type true)
    let value ← g.initial
    eatMarks ";"
    match value with
    | some v => return .constant name (noted ++ more) v
    | none => return .other []

/-- A macro call as a declaration; its braces need no semicolon. `named` tells whether it may give
a name. -/
def macroItem (named : Bool) : Rule Unit := do
  require (!isWord "Self" ·)
  let _ ← plainPath
  eatMarks "!"
  if ← peek fun ts => named && (isName ts || isWord "try" ts) then skip 1
  let (_, brace) ← anyGroup
  if !brace then eatMarks ";"

/-- The new names of an import, or none if it uses a form that only a macro would accept. `roots`
tells whether a leading `::` may stand inside braces. -/
def importsRule (g : Grammar) (roots : Bool) : Rule (Option (List (String × String))) := do
  let ts ← rest
  if isName ts || ["self", "super", "crate", "try"].any (isWord · ts) then
    let (name, _) ← word
    if ← tryMarks "::" then g.imports false
    else if ← tryWord "as" then return some [(← nameOrUnderscore, name)]
    else return some []
  else if ← tryMarks "*" then return some []
  else
    let all ← inside .brace (separated do
      let rooted ← (do if roots then tryMarks "::" else return false)
      let found ← g.imports (roots && !rooted)
      return if rooted then none else found)
    return if all.all Option.isSome then some (all.filterMap id).flatten else none

def useItem (g : Grammar) (noted : List Code) : Rule Code := do
  eatWord "use"
  let rooted ← tryMarks "::"
  let found ← g.imports (!rooted)
  eatMarks ";"
  match found with
  | some pairs => return .imports pairs noted
  | none => return .other []

def modItem (g : Grammar) (noted : List Code) : Rule Code := do
  let _ ← tryWord "unsafe"
  eatWord "mod"
  require fun ts => isName ts || isWord "try" ts
  skip 1
  if ← tryMarks ";" then return .module noted []
  else
    inside .brace do
      let (_, more) ← collectCode g.innerAttributes
      return .module (noted ++ more) (← manyWhile (!·.isEmpty) g.item)

def externCrate : Rule Unit := do
  eatWord "extern"
  eatWord "crate"
  require fun ts => isName ts || isWord "self" ts
  skip 1
  if ← tryWord "as" then
    let _ ← nameOrUnderscore
  eatMarks ";"

/-- A declaration in a block of foreign ones. One that says that it is safe, or that has a body or
a value, declares nothing. -/
def foreignItem (g : Grammar) : Rule (List Code) := do
  let (_, noted) ← collectCode g.attributes
  let visible ← visibility
  let ts ← rest
  if beginsFunction true ts then
    let ((_, safe), more) ← collectCode (g.qualifiedSignature true)
    if ← peek (isGroup .brace) then
      let _ ← g.block
      return []
    else
      eatMarks ";"
      return if safe then [] else noted ++ more
  else if isWord "static" ts ||
      ((isWord "unsafe" ts || isWord "safe" ts) && isWord "static" (ts.drop 1)) then
    let qualified := !isWord "static" ts
    skip (if qualified then 2 else 1)
    let _ ← tryWord "mut"
    let _ ← name
    eatMarks ":"
    let (_, more) ← collectCode (g.type true)
    let value ← g.initial
    eatMarks ";"
    return if value.isSome || qualified then [] else noted ++ more
  else if isWord "type" ts then
    let t ← g.typeText true true
    return if t.bounded || t.target.isSome then [] else noted ++ t.inParams
  else
    guard (!visible)
    macroItem false
    return noted

def foreignItems (g : Grammar) (noted : List Code) : Rule Code := do
  let _ ← tryWord "unsafe"
  tryAbi
  inside .brace do
    let (_, more) ← collectCode g.innerAttributes
    return .other (noted ++ more ++ (← manyWhile (!·.isEmpty) g.foreignItem).flatten)

/-- A member of a trait. -/
def traitMember (g : Grammar) : Rule Code := do
  let (_, noted) ← collectCode g.attributes
  let visible ← visibility
  let defaulted ← tryWord "default"
  let ts ← rest
  let item ← (do
    if beginsFunction false ts then
      let (signature, more) ← collectCode g.signature
      g.functionRest signature noted more (.function signature (noted ++ more))
    else if isWord "const" ts then g.constItem noted .other
    else if isWord "type" ts then
      let t ← g.typeText false true
      return .other (noted ++ t.inParams ++ t.inBounds ++ t.inTarget)
    else
      guard (!visible && !defaulted)
      macroItem false
      return .other noted)
  return if visible || defaulted then .other [] else item

/-- The members of a trait or an implementation, with its inner attributes. -/
def members (g : Grammar) (r : Rule Code) : Rule (List Code × List Code) :=
  inside .brace do
    let (_, noted) ← collectCode g.innerAttributes
    return (noted, ← manyWhile (!·.isEmpty) r)

/-- A trait, or a name for bounds, which declares nothing. -/
def traitItem (g : Grammar) (noted : List Code) : Rule Code := do
  let special ← peek fun ts => isWord "unsafe" ts || isWord "auto" ts
  let _ ← tryWord "unsafe"
  let _ ← tryWord "auto"
  eatWord "trait"
  let name ← name
  let (_, inParams) ← collectCode g.generics
  if !special && (← tryMarks "=") then
    let stop (ts : List Tree) := isWord "where" ts || isMarks ";" ts
    let (_, inBounds) ← collectCode (separatedUntil stop "+" (g.bound .ofObject))
    let (_, inConditions) ← collectCode g.conditions
    eatMarks ";"
    return .other (noted ++ inParams ++ inConditions ++ inBounds)
  else
    let stop (ts : List Tree) := isWord "where" ts || isGroup .brace ts
    let (supers, inBounds) ← collectCode (do
      if ← tryMarks ":" then separatedUntil stop "+" (g.bound .ofColon) else return [])
    let (_, inConditions) ← collectCode g.conditions
    let (inner, members) ← g.members g.traitMember
    return .trait name (Bound.names supers)
      (noted ++ inner ++ inParams ++ inConditions ++ inBounds) members

/-- A member of an implementation. -/
def implMember (g : Grammar) : Rule Code := do
  let (_, noted) ← collectCode g.attributes
  let visible ← visibility
  let defaulted ← peek fun ts => isWord "default" ts && !isMarks "!" (ts.drop 1)
  if defaulted then skip 1
  let ts ← rest
  if beginsFunction false ts then
    let (signature, more) ← collectCode g.signature
    g.functionRest signature noted more (.other [])
  else if isWord "const" ts then g.constItem noted fun _ => .other []
  else if isWord "type" ts then
    let t ← g.typeText false true
    return if t.bounded || t.target.isNone then .other []
      else .other (noted ++ t.inParams ++ t.inTarget)
  else
    guard (!visible && !defaulted)
    macroItem false
    return .other noted

/-- What an implementation is of: its trait and its type. -/
structure ImplHead where
  trait? : Option String
  self : TypeExpr
  /-- Whether only a macro would accept it. -/
  odd : Bool

/-- The head of an implementation behind its parameters. With `lenient`, forms that only a macro
would accept are read too. -/
def implHead (g : Grammar) (lenient : Bool) : Rule ImplHead := do
  let constant ← peek fun ts =>
    lenient && (isWord "const" ts || (isMarks "?" ts && isWord "const" (ts.drop 1)))
  if constant then
    let _ ← tryMarks "?"
    skip 1
  let negative ← peek fun ts => isMarks "!" ts && !isGroup .brace (ts.drop 1)
  if negative then skip 1
  let first ← g.type true
  if ← tryWord "for" then
    let trait? : Option String := match first with
      | .named lead name _ _ => if lead.qualified then none else some name
      | _ => none
    guard (lenient || trait?.isSome)
    return ⟨trait?, ← g.type true, constant || trait?.isNone⟩
  else
    guard (!negative)
    return ⟨none, first, constant⟩

/-- An implementation, of a trait or of its own. One that only a macro would accept declares
nothing. -/
def implItem (g : Grammar) (lenient : Bool) (visible : Bool) (noted : List Code) : Rule Code := do
  let _ ← tryWord "default"
  let _ ← tryWord "unsafe"
  eatWord "impl"
  let ((head, bounds), more) ← collectCode do
    let bounds ← (do if ← peek opensParameters then g.generics else return [])
    let (head, inner) ← collect (g.implHead lenient)
    let conditions ← g.conditions
    note inner
    return (head, bounds ++ conditions)
  let (inner, members) ← g.members g.implMember
  return if head.odd || visible then .other []
    else .impl head.self.simpleName? bounds head.trait? (noted ++ inner ++ more) members

/-- A macro declared by the keyword `macro`. -/
def macroDeclaration : Rule Unit := do
  eatWord "macro"
  let _ ← name
  if ← peek (isGroup .paren) then skip 1
  require (isGroup .brace)
  skip 1

/-- A declaration behind its attributes. -/
def itemAfter (g : Grammar) (attributes : List (Attribute Expr)) (noted : List Code) :
    Rule Code := do
  let visible ← visibility
  let ts ← rest
  let next := ts.drop 1
  if beginsFunction false ts then
    let (signature, more) ← collectCode g.signature
    g.functionRest signature noted more (.other [])
  else if isWord "extern" ts then
    if isWord "crate" next then
      externCrate
      return .other noted
    else
      guard (!visible)
      g.foreignItems noted
  else if isWord "use" ts then g.useItem noted
  else if isWord "static" ts then g.staticItem noted
  else if isWord "const" ts then g.constItem noted fun _ => .other []
  else if isWord "unsafe" ts then
    if isWord "trait" next || (isWord "auto" next && isWord "trait" (ts.drop 2)) then
      g.traitItem noted
    else if isWord "impl" next then g.implItem true visible noted
    else if isWord "extern" next then
      guard (!visible)
      g.foreignItems noted
    else g.modItem noted
  else if isWord "mod" ts then g.modItem noted
  else if isWord "type" ts then g.aliasItem noted
  else if isWord "struct" ts then g.structItem attributes noted
  else if isWord "enum" ts then g.enumItem attributes noted
  else if isWord "union" ts && isName next then g.unionItem noted
  else if isWord "trait" ts || (isWord "auto" ts && isWord "trait" next) then g.traitItem noted
  else if isWord "impl" ts || (isWord "default" ts && !isMarks "!" next) then
    g.implItem true visible noted
  else if isWord "macro" ts then
    macroDeclaration
    return .other []
  else
    guard (!visible)
    macroItem true
    return .other noted

def itemRule (g : Grammar) : Rule Code := do
  let (attributes, noted) ← collectCode g.attributes
  g.itemAfter attributes noted

/-- Whether a statement that begins here is a declaration. -/
def beginsItem (ts : List Tree) : Bool :=
  let next := ts.drop 1
  let third := ts.drop 2
  ["pub", "extern", "use", "fn", "mod", "type", "struct", "enum", "trait", "impl", "macro"].any
      (isWord · ts) ||
    (isWord "crate" ts && !isMarks "::" next) ||
    (isWord "static" ts && (isWord "mut" next || isName next)) ||
    (isWord "const" ts && !(isGroup .brace next || isWord "static" next ||
      (isWord "async" next &&
        !(isWord "unsafe" third || isWord "extern" third || isWord "fn" third)) ||
      isWord "move" next || isMarks "|" next)) ||
    (isWord "unsafe" ts && !isGroup .brace next) ||
    (isWord "async" ts && (isWord "unsafe" next || isWord "extern" next || isWord "fn" next)) ||
    (isWord "union" ts && isName next) ||
    (isWord "auto" ts && isWord "trait" next) ||
    (isWord "default" ts && (isWord "unsafe" next || isWord "impl" next))

/-- What a macro call at the start of a statement is: a declaration that gives a name, a statement
in braces, or the start of an expression. -/
inductive MacroStart where
  | item
  | statement (length : Nat)
  | none

def macroStart (ts : List Tree) : MacroStart :=
  match plainPath { rest := ts } with
  | some (_, s) =>
    let after := s.rest
    let next := after.drop 1
    let third := after.drop 2
    if !isMarks "!" after then .none
    else if isName next || isWord "try" next then .item
    else if isGroup .brace next &&
        !((isMarks "." third && !isMarks ".." third) || isMarks "?" third) then
      .statement (ts.length - third.length)
    else .none
  | none => .none

/-- Whether the last tree that was taken is a group in braces. -/
def endsInBrace (before after : List Tree) : Bool :=
  match (before.take (before.length - after.length)).getLast? with
  | some (.group .brace _) => true
  | _ => false

/-- A binding by `let`, with the block that runs if its pattern does not match. -/
def binding (g : Grammar) (noted : List Code) : Rule Code := do
  eatWord "let"
  let (p, more) ← collectCode g.typedPattern
  let lead := noted ++ more
  if ← tryMarks "=" then
    let before ← rest
    let t ← g.expr true
    let closed := endsInBrace before (← rest)
    let otherwise ← (do if !closed && (← tryWord "else") then g.bareBlock else return [])
    eatMarks ";"
    return .binding p lead (some t.code) otherwise
  else
    eatMarks ";"
    return .binding p lead none []

/-- A statement, and whether another one may follow. -/
def statement (g : Grammar) : Rule (Code × Bool) := do
  let (attributes, notes) ← collect g.attributes
  let noted : List Code := notes.map .expr
  let ts ← rest
  match macroStart ts with
  | .statement n =>
    skip n
    let _ ← tryMarks ";"
    return (.other noted, true)
  | .item => return (← g.itemAfter attributes noted, true)
  | .none =>
    if isWord "let" ts then return (← g.binding noted, true)
    else if beginsItem ts then return (← g.itemAfter attributes noted, true)
    else
      let t ← g.statementExpr
      let ended ← tryMarks ";"
      let closed := ended || match t.shape with
        | .block => true
        | .invocation brace => brace
        | _ => false
      return (.expr (t.annotate notes).code, closed)

def statementsRule (g : Grammar) : Rule (List Code) := do
  let found ← loop (fun (state : List Code × Bool) => do
    if ← tryMarks ";" then return some (state.1, true)
    else if ← atEnd then return none
    else
      guard state.2
      let (code, closed) ← g.statement
      return some (code :: state.1, closed)) ([], true)
  return found.1.reverse

end RouteContract.Source.Grammar
