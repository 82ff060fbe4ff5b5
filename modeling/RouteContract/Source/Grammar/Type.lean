import RouteContract.Source.Grammar.Attribute

/-!
Paths, types, trait bounds and generic parameters. Array lengths, constant arguments and defaults
are expressions; they are noted and not kept in the type.
-/

namespace RouteContract.Source.Grammar

open Rule

/-- A name of a path with the arguments written after it. -/
structure Segment where
  name : String
  applied : Bool := false
  /-- The types among the arguments. -/
  arguments : List TypeExpr := []
  /-- How many arguments there are, lifetimes and constants included. -/
  count : Nat := 0

/-- A path with its leading marks. -/
structure PathText where
  qualified : Bool := false
  rooted : Bool := false
  segments : List Segment

namespace PathText

def names (p : PathText) : List String := p.segments.map (·.name)

/-- Whether no name of the path has arguments. -/
def isPlain (p : PathText) : Bool := p.segments.all fun s => !s.applied

/-- The path as one text, without arguments. -/
def text (p : PathText) : String :=
  (if p.rooted then "::" else "") ++ "::".intercalate p.names

def lastName (p : PathText) : String := p.names.getLastD ""

/-- Whether the last name can still take arguments in parentheses. -/
def isCallable (p : PathText) : Bool := p.segments.getLast?.all fun s => s.count == 0

def toType (p : PathText) : TypeExpr :=
  match p.segments.getLast? with
  | some s =>
    .named ⟨p.qualified, p.rooted, p.names.dropLast⟩ s.name s.applied s.arguments
  | none => .other

end PathText

/-- A constant argument: a literal, or a block that is noted. -/
def constantArgument (g : Grammar) : Rule Unit := do
  let ts ← rest
  if isLiteral ts then skip (if isMarks "-" ts then 2 else 1)
  else if isGroup .brace ts then
    embed (.other (← inside .brace (do
      let (_, inner) ← collectCode g.innerAttributes
      return inner ++ (← g.statements))))
  else failure

/-- Bounds with plus signs between them and perhaps after them, up to a stop. -/
def boundsUntil (g : Grammar) (stop : List Tree → Bool) : Rule (List Bound) := do
  let found ← loop (fun (state : List Bound × Bool) => do
    if !state.2 || (← peek stop) then return none
    else
      let b ← g.bound .ofColon
      return some (b :: state.1, ← tryMarks "+")) ([], true)
  return found.1.reverse

/-- The arguments of a name in parentheses, with a result. -/
def callArguments (g : Grammar) : Rule Unit := do
  inside .paren do
    let _ ← separated (g.type true)
  if ← tryMarks "->" then
    let _ ← g.type false

/-- Arguments in angle brackets; one that is no type has no answer. -/
def angleArguments (g : Grammar) : Rule (List (Option TypeExpr)) := do
  eatMarks "<"
  let found ← separatedUntil (isMarks ">") "," (argument g)
  eatMarks ">"
  return found
where
  argument (g : Grammar) : Rule (Option TypeExpr) := do
    let ts ← rest
    if isLifetime ts && !isMarks "+" (ts.drop 1) then
      skip 1
      return none
    else if isLiteral ts || isGroup .brace ts then
      constantArgument g
      return none
    else
      let t ← g.type true
      match t with
      | .named ⟨false, false, []⟩ _ _ _ =>
        if ← tryMarks "=" then
          let ts ← rest
          if isLiteral ts || isGroup .brace ts then constantArgument g
          else let _ ← g.type true
          return none
        else if ← tryMarks ":" then
          let _ ← g.boundsUntil fun ts => isMarks "," ts || isMarks ">" ts
          return none
        else return some t
      | _ => return some t

/-- One name of a path. In an expression, arguments need `::` before them. -/
def segment (g : Grammar) (inExpr : Bool) : Rule Segment := do
  let ts ← rest
  if ["super", "self", "crate", "try"].any (isWord · ts) then return { name := (← word).1 }
  else
    let name ← if isWord "Self" ts then do pure (← word).1 else name
    let ts ← rest
    if (!inExpr && isMarks "<" ts && !isMarks "<=" ts && !isMarks "<<=" ts) ||
        (isMarks "::" ts && isMarks "<" (ts.drop 2)) then
      let _ ← tryMarks "::"
      let all ← angleArguments g
      return { name, applied := true, arguments := all.filterMap id, count := all.length }
    else return { name }

/-- The names after the first one. -/
def moreSegments (g : Grammar) (inExpr : Bool)
    (continues : List Tree → Bool) (first : Segment) : Rule (List Segment) := do
  let found ← loop (fun (acc : List Segment) => do
    if ← peek continues then
      skip 2
      return some ((← segment g inExpr) :: acc)
    else return none) [first]
  return found.reverse

/-- A path without a self type. -/
def simplePath (g : Grammar) (inExpr : Bool) : Rule PathText := do
  let rooted ← tryMarks "::"
  let first ← segment g inExpr
  let segments ← moreSegments g inExpr
    (fun ts => isMarks "::" ts && !isGroup .paren (ts.drop 2)) first
  return { rooted, segments }

/-- A path that may start with a self type in angle brackets. -/
def path (g : Grammar) (inExpr : Bool) : Rule PathText := do
  if ← tryMarks "<" then
    let _ ← g.type true
    let base ← (do
      if ← tryWord "as" then return some (← simplePath g false) else return none)
    eatMarks ">"
    eatMarks "::"
    let first ← segment g inExpr
    let segments ← moreSegments g inExpr (isMarks "::") first
    match base with
    | some p => return { p with qualified := true, segments := p.segments ++ segments }
    | none => return { qualified := true, rooted := true, segments }
  else simplePath g inExpr

/-- Lifetimes with plus signs between them and perhaps after them, up to a stop. -/
def lifetimesUntil (stop : List Tree → Bool) : Rule Unit := do
  let _ ← loop (fun (more : Bool) => do
    if !more || (← peek stop) then return none
    else
      require isLifetime
      skip 1
      return some (← tryMarks "+")) true

/-- Where the bounds of a parameter end. -/
def endsParameter (ts : List Tree) : Bool :=
  ts.isEmpty || isMarks "," ts || isMarks ">" ts

/-- A generic parameter behind its attributes; a type parameter has a name and bounds. -/
def parameter (g : Grammar) : Rule (Option (String × List String)) := do
  let ts ← rest
  if isLifetime ts then
    skip 1
    if ← tryMarks ":" then lifetimesUntil endsParameter
    return none
  else if isWord "const" ts then
    skip 1
    let _ ← name
    eatMarks ":"
    let _ ← g.type true
    if ← tryMarks "=" then
      if ← peek isName then skip 1 else constantArgument g
    return none
  else
    let param ← name
    let bounds ← (do
      if ← tryMarks ":" then g.boundsUntil fun ts => endsParameter ts || isMarks "=" ts
      else return [])
    if ← tryMarks "=" then
      let _ ← g.type true
    return some (param, Bound.names bounds)

/-- The parameters in angle brackets, each type parameter with its bounds. An underscore is a
parameter without bounds. -/
def generics (g : Grammar) : Rule Bounds := do
  if ← tryMarks "<" then
    let found ← separatedUntil (isMarks ">") "," do
      let _ ← g.attributes
      if ← tryWord "_" then return some ("_", []) else g.parameter
    eatMarks ">"
    return found.filterMap id
  else return []

/-- Parameters bound by `for` before a trait, a type or a closure. -/
def boundParameters (g : Grammar) : Rule Bool := do
  if ← tryWord "for" then
    eatMarks "<"
    let _ ← separatedUntil (isMarks ">") "," do
      let _ ← g.attributes
      g.parameter
    eatMarks ">"
    return true
  else return false

/-- Whether an angle bracket opens generic parameters, and not the self type of a path. -/
def opensParameters (ts : List Tree) : Bool :=
  let second := ts.drop 1
  let third := ts.drop 2
  isMarks "<" ts && (isMarks ">" second || isMarks "#" second || isWord "const" second ||
    ((isLifetime second || isName second) &&
      (isMarks ">" third || isMarks "," third || (isMarks ":" third && !isMarks "::" third) ||
        isMarks "=" third)))

/-- A trait with its lifetimes, its modifiers and the arguments of its last name. A trait that is
dropped by a question mark cannot bind lifetimes. -/
def traitBound (g : Grammar) (place : BoundPlace) : Rule Bound := do
  let before ← boundParameters g
  let ts ← rest
  let conditional := isGroup .bracket ts
  let constant := conditional || isWord "const" ts
  guard (!constant || place.constant)
  if conditional then inside .bracket (eatWord "const")
  else if constant then skip 1
  let dropped ← tryMarks "?"
  let after ← (do if dropped && !before then boundParameters g else return false)
  let p ← simplePath g false
  let called ← peek fun ts => isGroup .paren ts || (isMarks "::" ts && isGroup .paren (ts.drop 2))
  if called && p.isCallable then
    let _ ← tryMarks "::"
    callArguments g
  guard (!(dropped && (before || after)))
  return if constant then .constant else .trait p.lastName

/-- A bound. Nothing inside a bound that is asked for at compile time is noted. -/
def boundRule (g : Grammar) (place : BoundPlace) : Rule Bound := do
  let ts ← rest
  if isLifetime ts then
    skip 1
    return .lifetime
  else if isWord "use" ts then
    guard place.captures
    skip 1
    eatMarks "<"
    let _ ← separatedUntil (isMarks ">") "," do
      require fun ts => isLifetime ts || isName ts || isWord "Self" ts
      skip 1
    eatMarks ">"
    return .captures
  else
    let (b, inner) ← collect (
      if isGroup .paren ts then inside .paren (g.traitBound place) else g.traitBound place)
    if b != .constant then note inner
    return b

/-- The words and marks that can begin a further bound. -/
def beginsBound (place : BoundPlace) (ts : List Tree) : Bool :=
  isAnyWord ts || isMarks "::" ts || isMarks "?" ts || isLifetime ts || isGroup .paren ts ||
    (place.constant && isGroup .bracket ts)

/-- A list of bounds, and whether a plus sign ends it. -/
structure BoundList where
  bounds : List Bound
  trailing : Bool := false

/-- Bounds joined by plus signs to a first one; the last plus sign need not be followed by a
bound. -/
def moreBounds (g : Grammar) (place : BoundPlace) (first : Bound) : Rule BoundList := do
  let found ← loop (fun (state : List Bound × Bool) => do
    if !state.2 && (← tryMarks "+") then
      if ← peek (beginsBound place) then return some ((← g.bound place) :: state.1, false)
      else return some (state.1, true)
    else return none) ([first], false)
  return ⟨found.1.reverse, found.2⟩

/-- Bounds joined by plus signs to a first one, with a bound after every plus sign. -/
def joinedBounds (g : Grammar) : Rule (List Bound) :=
  manyWhile (isMarks "+") do
    skip 1
    g.bound .ofObject

/-- The bounds of an `impl` or `dyn` type, of which one must be a trait. -/
def traits (g : Grammar) (plus : Bool) (place : BoundPlace) : Rule BoundList := do
  let first ← g.bound place
  let all ← if plus then g.moreBounds place first else pure ⟨[first], false⟩
  guard (all.bounds.any Bound.isTrait)
  return all

/-- The type of a list of bounds without a keyword before it. A single bound can be joined by
others if it stands in parentheses. -/
def BoundList.toType (bs : BoundList) : TypeForm :=
  let names := Bound.names bs.bounds
  { type := .bounded names
    joinable := if bs.bounds.length == 1 && !bs.trailing then some names else none }

/-- The keyword `extern` with the name of a calling convention, if it comes next. -/
def tryAbi : Rule Unit := do
  if ← tryWord "extern" then
    if ← peek isText then skip 1

/-- Whether a name with a colon stands before what follows. -/
def isLabelled (ts : List Tree) : Bool :=
  (isName ts || isWord "_" ts) && isMarks ":" (ts.drop 1)

/-- An argument of a function type behind its attributes. Only the first one may be a receiver;
nothing inside a receiver that can be changed is noted. -/
def functionArgument (g : Grammar) (isFirst : Bool) : Rule Unit := do
  let isReceiver (ts : List Tree) := isFirst && isWord "mut" ts && isWord "self" (ts.drop 1)
  let mutable_ ← peek isReceiver
  if mutable_ then skip 1
  let ts ← rest
  let own := isFirst && isWord "self" ts
  let labelled := (isName ts || isWord "_" ts || own) && isMarks ":" (ts.drop 1) &&
    !isMarks "::" (ts.drop 1)
  if labelled then skip 2
  if !(own && labelled) && isReceiver (← rest) then skip 2
  else if mutable_ && !labelled then eatWord "self"
  else if mutable_ then
    let _ ← unnoted (g.type true)
  else
    let _ ← g.type true

/-- The arguments of a function type; dots stand for any number of them at the end. -/
def functionArguments (g : Grammar) : Rule Unit := do
  let _ ← loop (fun (state : Bool × Bool) => do
    let (isFirst, more) := state
    if !more || (← atEnd) then return none
    else
      let _ ← g.attributes
      let ts ← rest
      if isMarks "..." ts || (isLabelled ts && isMarks "..." (ts.drop 2)) then
        skip (if isMarks "..." ts then 3 else 5)
        let _ ← tryMarks ","
        return some (false, false)
      else
        g.functionArgument isFirst
        if ← atEnd then return some (false, false)
        else
          eatMarks ","
          return some (false, true)) (true, true)

/-- A function type after its lifetimes. -/
def functionType (g : Grammar) : Rule TypeExpr := do
  let _ ← tryWord "unsafe"
  tryAbi
  eatWord "fn"
  inside .paren g.functionArguments
  if ← tryMarks "->" then
    let _ ← g.type false
  return .other

/-- What a type in parentheses holds. -/
inductive ParenForm where
  /-- A type that is complete. -/
  | closed (t : TypeExpr)
  /-- A trait behind a question mark. -/
  | dropped (b : Bound)
  | single (t : TypeForm)

/-- A type in parentheses, a tuple, or bounds of which the first is in parentheses. -/
def parenType (g : Grammar) (plus : Bool) : Rule TypeForm := do
  let form : ParenForm ← inside .paren do
    let ts ← rest
    if ts.isEmpty then return .closed .other
    else if isLifetime ts then
      return .closed (.paren (← g.traits true .ofObject).toType.type)
    else if isMarks "?" ts then return .dropped (← g.traitBound .ofObject)
    else
      let first ← g.typeForm true
      if ← tryMarks "," then
        let _ ← separated (g.type true)
        return .closed .other
      else return .single first
  match form with
  | .closed t => return { type := t }
  | .dropped b => return BoundList.toType ⟨b :: (← g.joinedBounds), false⟩
  | .single first =>
    match first.joinable with
    | some names =>
      if plus && (← peek (isMarks "+")) then
        return { type := .bounded (names ++ Bound.names (← g.joinedBounds)) }
      else return { type := .paren first.type }
    | none => return { type := .paren first.type }

/-- A built-in form: its name stands behind a number sign, and its arguments are not read. -/
def builtinForm : Rule Unit := do
  eatWord "builtin"
  eatMarks "#"
  let _ ← name
  require (isGroup .paren)
  skip 1

def isBuiltin (ts : List Tree) : Bool :=
  isWord "builtin" ts && isMarks "#" (ts.drop 1)

/-- A type that begins with a path: a name, a macro call, or bounds without a keyword. -/
def pathType (g : Grammar) (plus quantified : Bool) : Rule TypeForm := do
  let p ← g.path false
  if p.qualified then return { type := p.toType }
  else
    let ts ← rest
    if isMarks "!" ts && !isMarks "!=" ts && p.isPlain then
      skip 1
      let _ ← anyGroup
      return { type := .other }
    else if quantified || (plus && isMarks "+" ts) then
      let first := Bound.trait p.lastName
      let all ← if plus then g.moreBounds .ofObject first else pure ⟨[first], false⟩
      return all.toType
    else return { type := p.toType, joinable := some [p.lastName] }

/-- A type; `plus` allows bounds joined by plus signs. -/
def typeRule (g : Grammar) (plus : Bool) : Rule TypeForm := do
  let quantified ← boundParameters g
  let ts ← rest
  if quantified then
    guard (isName ts || isWord "fn" ts || isWord "unsafe" ts || isWord "extern" ts ||
      isPathWord ts)
  if isGroup .paren ts then g.parenType plus
  else if isWord "fn" ts || isWord "unsafe" ts || isWord "extern" ts then
    return { type := ← g.functionType }
  else if isBuiltin ts then
    builtinForm
    return { type := .other }
  else if isName ts || isPathWord ts || isMarks "::" ts || isMarks "<" ts then
    g.pathType plus quantified
  else if isWord "dyn" ts then
    skip 1
    let starred ← tryMarks "*"
    if starred then
      let _ ← unnoted (g.traits plus .ofObject)
      return { type := .other }
    else return { type := (← g.traits plus .ofObject).toType.type }
  else if isGroup .bracket ts then
    let t ← inside .bracket do
      let t ← g.type true
      if ← tryMarks ";" then g.embedded
      return t
    return { type := .sequence t }
  else if isMarks "*" ts then
    skip 1
    require fun ts => isWord "const" ts || isWord "mut" ts
    skip 1
    let _ ← g.type false
    return { type := .other }
  else if isMarks "&" ts then
    skip 1
    let _ ← tryLifetime
    let _ ← tryWord "mut"
    return { type := .reference (← g.type false) }
  else if isMarks "!" ts && !isMarks "=" ts then
    skip 1
    return { type := .other }
  else if isWord "impl" ts then
    skip 1
    return { type := (← g.traits plus .ofImpl).toType.type }
  else if isWord "_" ts then
    skip 1
    return { type := .other }
  else if isLifetime ts then return (← g.traits true .ofObject).toType
  else failure

/-- The type after an arrow, if there is one. -/
def result (g : Grammar) : Rule (Option TypeExpr) := do
  if ← tryMarks "->" then return some (← g.type true) else return none

/-- Where a list of conditions ends. -/
def endsConditions (ts : List Tree) : Bool :=
  ts.isEmpty || isGroup .brace ts || isMarks "," ts || isMarks ";" ts ||
    (isMarks ":" ts && !isMarks "::" ts) || isMarks "=" ts

/-- The conditions after `where`, as bounds of the types they name. Conditions have no parameters
of their own. -/
def conditions (g : Grammar) : Rule Bounds := do
  if ← tryWord "where" then
    require fun ts => !opensParameters ts
    let found ← loop (fun (state : List (Option (String × List String)) × Bool) => do
      if !state.2 || (← peek endsConditions) then return none
      else
        let c ← condition
        return some (c :: state.1, ← tryMarks ",")) ([], true)
    return found.1.reverse.filterMap id
  else return []
where
  condition : Rule (Option (String × List String)) := do
    let ts ← rest
    if isLifetime ts && isMarks ":" (ts.drop 1) then
      skip 2
      lifetimesUntil endsConditions
      return none
    else
      let _ ← boundParameters g
      let t ← g.type true
      eatMarks ":"
      let bounds ← g.boundsUntil endsConditions
      return t.simpleName?.map (·, Bound.names bounds)

end RouteContract.Source.Grammar
