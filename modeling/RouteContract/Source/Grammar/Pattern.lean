import RouteContract.Source.Grammar.Type

/-!
Patterns. A pattern matters for the name it binds; everything else is read to find its end.
-/

namespace RouteContract.Source.Grammar

open Rule

/-- Whether a further alternative of a pattern comes next. -/
def isAlternative (ts : List Tree) : Bool :=
  isMarks "|" ts && !isMarks "||" ts && !isMarks "|=" ts

/-- A pattern with alternatives; a bar may stand before the first of them. -/
def alternatives (g : Grammar) : Rule Pattern := do
  let led ← tryMarks "|"
  let first ← g.pattern
  let more ← manyWhile isAlternative do
    skip 1
    let _ ← g.pattern
  return if led || !more.isEmpty then .other else first

/-- Two or three dots, perhaps with an equals sign; the answer tells whether a bound must follow. -/
def rangeMarks (obsolete : Bool) : Rule Bool := do
  let ts ← rest
  if isMarks "..=" ts then
    skip 3
    return true
  else if isMarks "..." ts then
    guard obsolete
    skip 3
    return true
  else
    eatMarks ".."
    return false

/-- Where a range pattern has no bound. -/
def endsRange (ts : List Tree) : Bool :=
  ts.isEmpty || isMarks "|" ts || isMarks "=" ts || (isMarks ":" ts && !isMarks "::" ts) ||
    isMarks "," ts || isMarks ";" ts || isWord "if" ts

/-- A block after `const`. -/
def constBlock (g : Grammar) : Rule Expr := do
  eatWord "const"
  inside .brace do
    let (_, inner) ← collectCode g.innerAttributes
    return .other (inner ++ (← g.statements))

/-- A bound of a range pattern; false if there is none. -/
def rangeBound (g : Grammar) : Rule Bool := do
  let ts ← rest
  if endsRange ts then return false
  else if isLiteral ts then
    skip (if isMarks "-" ts then 2 else 1)
    return true
  else if isName ts || isPathWord ts || isMarks "::" ts || isMarks "<" ts then
    let _ ← g.path true
    return true
  else if isWord "const" ts then
    embed (← g.constBlock)
    return true
  else failure

/-- The marks of a range and its upper bound. -/
def rangeRest (g : Grammar) : Rule Pattern := do
  let closed ← rangeMarks true
  let bounded ← g.rangeBound
  guard (bounded || !closed)
  return if bounded then .other else .openRange

/-- The number of a field without a name: a whole number below 2 to the power of 32. -/
def tupleIndex : Rule Unit := do
  match ← rest with
  | .literal (.whole n "") :: _ =>
    guard (n < Nat.pow 2 32)
    skip 1
  | _ => failure

/-- The pattern of a field in a record pattern. -/
def fieldPattern (g : Grammar) : Rule Unit := do
  let boxed ← tryWord "box"
  let byRef ← tryWord "ref"
  let mutable_ ← tryWord "mut"
  if boxed || byRef || mutable_ then
    let _ ← name
  else if ← peek isName then
    skip 1
    if ← tryMarks ":" then
      let _ ← g.alternatives
  else
    tupleIndex
    eatMarks ":"
    let _ ← g.alternatives

/-- Fields of a record pattern; two dots end them. -/
def fieldPatterns (g : Grammar) : Rule Unit := do
  let _ ← loop (fun (more : Bool) => do
    if !more || (← atEnd) then return none
    else
      let _ ← g.attributes
      if ← tryMarks ".." then return some false
      else
        g.fieldPattern
        if ← atEnd then return some false
        else
          eatMarks ","
          return some true) true

/-- A pattern that begins with a path: a macro call, a record, a tuple, a range or the path. -/
def pathPattern (g : Grammar) : Rule Pattern := do
  let p ← g.path true
  let ts ← rest
  if !p.qualified && isMarks "!" ts && !isMarks "!=" ts && p.isPlain then
    skip 1
    let _ ← anyGroup
    return .other
  else if isGroup .brace ts then
    inside .brace g.fieldPatterns
    return .other
  else if isGroup .paren ts then
    inside .paren do
      let _ ← separated g.alternatives
    return .other
  else if isMarks ".." ts then g.rangeRest
  else return .other

/-- An element of a slice pattern. A range with an open end needs parentheses there. -/
def slicePattern (g : Grammar) : Rule Unit := do
  match ← g.alternatives with
  | .openRange => failure
  | _ => pure ()

/-- A pattern without alternatives. Nothing inside a pattern behind `box` is noted. -/
def patternRule (g : Grammar) : Rule Pattern := do
  let ts ← rest
  let next := ts.drop 1
  if (isName ts && (isMarks "::" next || isMarks "!" next || isGroup .brace next ||
        isGroup .paren next || isMarks ".." next)) ||
      (isWord "self" ts && isMarks "::" next) || isMarks "::" ts || isMarks "<" ts ||
      isWord "Self" ts || isWord "super" ts || isWord "crate" ts then
    g.pathPattern
  else if isWord "_" ts then
    skip 1
    return .other
  else if isWord "box" ts then
    skip 1
    let _ ← unnoted g.pattern
    return .other
  else if isMarks "-" ts || isLiteral ts || isWord "const" ts then
    let bounded ← g.rangeBound
    guard bounded
    if ← peek (isMarks "..") then g.rangeRest else return .other
  else if isWord "ref" ts || isWord "mut" ts || isWord "self" ts || isName ts then
    let _ ← tryWord "ref"
    let _ ← tryWord "mut"
    require fun ts => isName ts || isWord "self" ts
    let (bound, _) ← word
    if ← tryMarks "@" then
      let _ ← g.pattern
    return .name bound
  else if isMarks "&" ts then
    skip 1
    let _ ← tryWord "mut"
    let _ ← g.pattern
    return .other
  else if isGroup .paren ts then
    inside .paren do
      let _ ← separated g.alternatives
    return .other
  else if isGroup .bracket ts then
    inside .bracket do
      let _ ← separated g.slicePattern
    return .other
  else if isMarks ".." ts && !isMarks "..." ts then
    let closed ← rangeMarks false
    let bounded ← g.rangeBound
    guard (bounded || !closed)
    return if bounded then .openRange else .other
  else failure

/-- A pattern behind which a type stands. -/
def typedAs (p : Pattern) (t : TypeExpr) : Pattern :=
  match p with
  | .name n => .typed n t
  | _ => .other

/-- A pattern with a type, where one follows. -/
def typedPattern (g : Grammar) : Rule Pattern := do
  let p ← g.pattern
  if ← tryMarks ":" then return typedAs p (← g.type true) else return p

end RouteContract.Source.Grammar
