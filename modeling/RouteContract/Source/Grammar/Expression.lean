import RouteContract.Source.Grammar.Pattern
import RouteContract.Source.Token.Literal

/-!
Expressions. Operators are read by precedence; only their operands are kept. A chain of method
calls, field accesses and arguments is read from its root outwards.
-/

namespace RouteContract.Source.Grammar

open Rule

/-- An expression of which only the parts matter. -/
def parts (ps : List Code) (shape : Shape := .plain) : Term := ⟨.other ps, shape⟩

/-- An expression with a block. -/
def blockTerm (ps : List Code) : Term := parts ps .block

/-- A block: the expressions in its attributes, and its statements. -/
structure Body where
  noted : List Code
  statements : List Code

namespace Body

def codes (b : Body) : List Code := b.noted ++ b.statements

end Body

/-- A block that may have attributes. -/
def block (g : Grammar) : Rule Body :=
  inside .brace do
    let (_, noted) ← collectCode g.innerAttributes
    return ⟨noted, ← g.statements⟩

/-- The statements of a block without attributes. -/
def bareBlock (g : Grammar) : Rule (List Code) :=
  inside .brace g.statements

def label : Rule Unit := do
  require isLifetime
  skip 1
  eatMarks ":"

/-- An expression before a block: a record literal would take the block. -/
def condition (g : Grammar) : Rule Code := return .expr (← g.expr false).code

/-- A conditional with all its alternatives. -/
def conditional (g : Grammar) : Rule Term := do
  let found ← loop (fun (state : List Code × Bool) => do
    if !state.2 then return none
    else
      eatWord "if"
      let c ← g.condition
      let body ← g.bareBlock
      let soFar := state.1 ++ c :: body
      if ← tryWord "else" then
        if ← peek (isWord "if") then return some (soFar, true)
        else return some (soFar ++ (← g.bareBlock), false)
      else return some (soFar, false)) ([], true)
  return blockTerm found.1

def whileLoop (g : Grammar) : Rule Term := do
  eatWord "while"
  let c ← g.condition
  let body ← g.block
  return blockTerm (body.noted ++ c :: body.statements)

def forLoop (g : Grammar) : Rule Term := do
  eatWord "for"
  let (_, inPattern) ← collectCode g.alternatives
  eatWord "in"
  let c ← g.condition
  let body ← g.block
  return blockTerm (body.noted ++ inPattern ++ c :: body.statements)

def plainLoop (g : Grammar) : Rule Term := do
  eatWord "loop"
  return blockTerm (← g.block).codes

/-- One arm of a match. A comma may be left out after a block and at the end. -/
def arm (g : Grammar) : Rule (List Code) := do
  let (_, noted) ← collectCode do
    let _ ← g.attributes
    g.alternatives
  let guarded ← (do
    if ← tryWord "if" then return [Code.expr (← g.expr true).code] else return [])
  eatMarks "=>"
  let body ← g.statementExpr
  if body.shape != .block && !(← atEnd) then eatMarks ","
  else let _ ← tryMarks ","
  return noted ++ guarded ++ [.expr body.code]

def matchExpr (g : Grammar) : Rule Term := do
  eatWord "match"
  let subject ← g.condition
  let (noted, arms) ← inside .brace do
    let (_, noted) ← collectCode g.innerAttributes
    return (noted, (← manyWhile (!·.isEmpty) g.arm).flatten)
  return blockTerm (noted ++ subject :: arms)

/-- A loop or block after a label. -/
def labeled (g : Grammar) : Rule Term := do
  label
  let ts ← rest
  if isWord "while" ts then g.whileLoop
  else if isWord "for" ts then g.forLoop
  else if isWord "loop" ts then g.plainLoop
  else return blockTerm (← g.block).codes

/-- A block after a keyword. -/
def blockAfter (g : Grammar) (keyword : String) : Rule Term := do
  eatWord keyword
  return blockTerm (← g.block).codes

/-- A block after the word `try`, which has no attributes. -/
def tryBlock (g : Grammar) : Rule Term := do
  eatWord "try"
  return blockTerm (← g.bareBlock)

def assignPrecedence : Nat := 1
def rangePrecedence : Nat := 2
def comparePrecedence : Nat := 6
def castPrecedence : Nat := 13

/-- Binary operators with their precedence, longer ones first. -/
def binaryOperators : List (String × Nat) :=
  ["+=", "-=", "*=", "/=", "%=", "^=", "&=", "|=", "<<=", ">>="].map (·, assignPrecedence) ++
  [("&&", 4), ("||", 3), ("<<", 10), (">>", 10), ("==", 6), ("<=", 6), ("!=", 6), (">=", 6),
   ("+", 11), ("-", 11), ("*", 12), ("/", 12), ("%", 12), ("^", 8), ("&", 9), ("|", 7),
   ("<", 6), (">", 6)]

def operator? (ts : List Tree) : Option (String × Nat) :=
  binaryOperators.find? fun (op, _) => isMarks op ts

/-- The precedence of what comes next; zero if it is no operator. -/
def nextPrecedence (ts : List Tree) : Nat :=
  match operator? ts with
  | some (_, p) => p
  | none =>
    if isMarks "=" ts && !isMarks "=>" ts then assignPrecedence
    else if isMarks ".." ts then rangePrecedence
    else if isWord "as" ts then castPrecedence
    else 0

/-- The right-hand side of an operator. -/
def rightSide (g : Grammar) (records : Bool) (precedence : Nat) : Rule Term := do
  let first ← g.operand records
  let found ← loop (fun (state : Term × Bool) => do
    let ts ← rest
    let next := nextPrecedence ts
    if state.2 && (next > precedence || (next == precedence && precedence == assignPrecedence)) then
      let t ← g.operators records next state.1
      -- An operator that the left side cannot take ends the expression.
      return some (t, (← rest).length < ts.length)
    else return none) (first, true)
  return found.1

/-- Where a range has no upper end. -/
def endsOpenRange (records : Bool) (ts : List Tree) : Bool :=
  ts.isEmpty || (isMarks "." ts && !isMarks ".." ts) || (!records && isGroup .brace ts) ||
    isWord "as" ts ||
    [",", ";", "?", "=>", "=", "+", "/", "%", "^", ">", "<=", "!=", "-=", "*=", "&=", "|=",
      "<<="].any (isMarks · ts)

/-- The marks of a range and its upper end. -/
def rangeEnd (g : Grammar) (records : Bool) : Rule (List Code) := do
  let closed ← rangeMarks false
  if !closed && (← peek (endsOpenRange records)) then return []
  else return [.expr (← g.rightSide records rangePrecedence).code]

/-- A cast cannot be followed by a call, an index, a field or a question mark. -/
def endsCast (ts : List Tree) : Bool :=
  !((isMarks "." ts && !isMarks ".." ts) || isMarks "?" ts || isGroup .bracket ts ||
    isGroup .paren ts)

/-- One operator after a left side, if its precedence is high enough. -/
def operatorStep (g : Grammar) (records : Bool) (base : Nat) (left : Term) :
    Rule (Option Term) := do
  let ts ← rest
  let applied (right : List Code) (shape : Shape) : Option Term :=
    some ⟨.operation left.code right, shape⟩
  if left.shape == .range then return none
  else
    match operator? ts with
    | some (op, precedence) =>
      if precedence < base then return none
      else
        let comparison := precedence == comparePrecedence
        guard (!(comparison && left.shape == .comparison))
        skip op.length
        let right ← g.rightSide records precedence
        return applied [.expr right.code] (if comparison then .comparison else .plain)
    | none =>
      if assignPrecedence ≥ base && isMarks "=" ts && !isMarks "=>" ts then
        skip 1
        return applied [.expr (← g.rightSide records assignPrecedence).code] .plain
      else if rangePrecedence ≥ base && isMarks ".." ts then
        return some (parts (.expr left.code :: (← g.rangeEnd records)) .range)
      else if castPrecedence ≥ base && isWord "as" ts then
        skip 1
        let (_, noted) ← collectCode (g.type false)
        require endsCast
        return applied noted .plain
      else return none

def operatorsRule (g : Grammar) (records : Bool) (base : Nat) (left : Term) : Rule Term :=
  loop (g.operatorStep records base) left

/-- How many fields a real number stands for after a point, as `x.0.1` is a field of a field, and
whether a further point follows them. -/
def fieldsOfReal? (written : String) : Option (Nat × Bool) :=
  let cs := written.toList
  let dotted := cs.getLast? == some '.'
  let digits := if dotted then cs.dropLast else cs
  let pieces := digits.splitBy fun a b => (a == '.') == (b == '.')
  let numbers := pieces.filter fun p => p.head? != some '.'
  if numbers.all isIndex then some (numbers.length, dotted) else none
where
  isIndex (cs : List Char) : Bool :=
    cs.all (fun c => c.isDigit || c == '_') && digitsValue 10 cs < Nat.pow 2 32

def tupleField (e : Expr) : Expr := .field e none

/-- A point and what follows it. -/
def member (g : Grammar) (e : Expr) : Rule Expr := do
  match ← rest with
  | .literal (.real written) :: _ =>
    skip 1
    match fieldsOfReal? written with
    | none => failure
    | some (n, dotted) =>
      let e := n.repeat tupleField e
      if dotted then named e else return e
  | _ => named e
where
  named (e : Expr) : Rule Expr := do
    if ← tryWord "await" then return .other [.expr e]
    else if ← peek isName then
      let (name, pos) ← word
      let types ← unnoted (do
        if ← tryMarks "::" then return some ((← angleArguments g).filterMap id) else return none)
      if types.isSome || (← peek (isGroup .paren)) then
        return .method e name pos (types.getD []) (← inside .paren g.expressions)
      else return .field e (some name)
    else
      tupleIndex
      return tupleField e

/-- Calls, members, indices and question marks after an expression. -/
def trailers (g : Grammar) (t : Term) : Rule Term :=
  loop (fun (t : Term) => do
    let ts ← rest
    if isGroup .paren ts then
      return some ⟨.call t.code (← inside .paren g.expressions), .plain⟩
    else if isMarks "." ts && !isMarks ".." ts && t.shape != .range then
      skip 1
      return some ⟨← g.member t.code, .plain⟩
    else if isGroup .bracket ts then
      let index ← inside .bracket (g.expr true)
      return some (parts [.expr t.code, .expr index.code])
    else if isMarks "?" ts && t.shape != .range then
      skip 1
      return some (parts [.expr t.code])
    else return none) t

/-- A field of a record literal. -/
def fieldValue (g : Grammar) : Rule (List Code) := do
  let (_, noted) ← collectCode g.attributes
  if ← peek isName then
    let (name, _) ← word
    if ← tryMarks ":" then return noted ++ [.expr (← g.expr true).code]
    else return noted ++ [.expr (.path [name] [])]
  else
    tupleIndex
    eatMarks ":"
    return noted ++ [.expr (← g.expr true).code]

/-- The fields of a record literal; what follows two dots is its base. -/
def fieldValues (g : Grammar) : Rule (List Code) := do
  let found ← loop (fun (state : List Code × Bool) => do
    if !state.2 || (← atEnd) then return none
    else if ← tryMarks ".." then
      if ← atEnd then return some (state.1, false)
      else return some (state.1 ++ [.expr (← g.expr true).code], false)
    else
      let soFar := state.1 ++ (← g.fieldValue)
      if ← atEnd then return some (soFar, false)
      else
        eatMarks ","
        return some (soFar, true)) ([], true)
  return found.1

/-- A path, a macro call or a record literal. -/
def pathExpr (g : Grammar) (records : Bool) : Rule Term := do
  let (p, inner) ← collect (g.path true)
  let ts ← rest
  if !p.qualified && isMarks "!" ts && !isMarks "!=" ts && p.isPlain then
    skip 1
    let (body, brace) ← anyGroup
    return ⟨.invocation p.text (g.expressions? body), .invocation brace⟩
  else if records && isGroup .brace ts then
    let fields ← inside .brace g.fieldValues
    return parts (inner.map .expr ++ fields)
  else return ⟨.path p.names inner, .plain⟩

/-- An expression in parentheses, or a tuple. -/
def parenExpr (g : Grammar) : Rule Term :=
  inside .paren do
    if ← atEnd then return parts []
    else
      let first ← g.expr true
      if ← atEnd then return ⟨.paren first.code, .plain⟩
      else
        eatMarks ","
        return parts ((first.code :: (← g.expressions)).map .expr)

/-- An array, by its elements or by one element and a length. -/
def arrayExpr (g : Grammar) : Rule Term :=
  inside .bracket do
    if ← atEnd then return ⟨.array [], .plain⟩
    else
      let first ← g.expr true
      if ← tryMarks ";" then
        let length ← g.expr true
        return parts [.expr first.code, .expr length.code]
      else if ← atEnd then return ⟨.array [first.code], .plain⟩
      else
        eatMarks ","
        return ⟨.array (first.code :: (← g.expressions)), .plain⟩

/-- Whether `for` opens a list of parameters, and so a closure. -/
def bindsParameters (ts : List Tree) : Bool :=
  isWord "for" ts && opensParameters (ts.drop 1)

/-- A parameter of a closure. Behind `box` and without a type its attributes are not noted. -/
def closureParam (g : Grammar) : Rule Pattern := do
  let (_, notes) ← collect g.attributes
  let boxed ← peek (isWord "box")
  let (p, inner) ← collect g.pattern
  let typed ← tryMarks ":"
  if typed || !boxed then note (notes ++ inner)
  if typed then return typedAs p (← g.type true) else return p

/-- A closure. The names that its typed parameters bind are kept. -/
def closure (g : Grammar) (records : Bool) : Rule Term := do
  let (params, noted) ← collectCode do
    let _ ← boundParameters g
    let _ ← tryWord "const"
    let _ ← tryWord "static"
    let _ ← tryWord "async"
    let _ ← tryWord "move"
    eatMarks "|"
    separatedUntil (isMarks "|") "," g.closureParam
  eatMarks "|"
  if ← tryMarks "->" then
    let (_, more) ← collectCode (g.type true)
    let body ← g.bareBlock
    return ⟨.closure params (noted ++ more ++ body), .plain⟩
  else
    let body ← g.expr records
    return ⟨.closure params (noted ++ [.expr body.code]), .plain⟩

/-- Whether an expression can begin here. -/
def beginsExpr (ts : List Tree) : Bool :=
  (isAnyWord ts && !isWord "as" ts) || isGroup .paren ts || isGroup .bracket ts ||
    isGroup .brace ts || isLiteral ts || (isMarks "!" ts && !isMarks "!=" ts) ||
    (isMarks "-" ts && !isMarks "-=" ts && !isMarks "->" ts) ||
    (isMarks "*" ts && !isMarks "*=" ts) || (isMarks "|" ts && !isMarks "|=" ts) ||
    (isMarks "&" ts && !isMarks "&=" ts) || isMarks ".." ts ||
    (isMarks "<" ts && !isMarks "<=" ts && !isMarks "<<=" ts) || isMarks "::" ts ||
    isLifetime ts || isMarks "#" ts

/-- The expression that a jump carries, if one follows; `blocks` tells whether it may be a block. -/
def carried (g : Grammar) (blocks : Bool) : Rule Term := do
  let ts ← rest
  if beginsExpr ts && (blocks || !isGroup .brace ts) then
    return parts [.expr (← g.expr true).code]
  else return parts []

/-- An expression that is no operator, before anything that follows it. -/
def atom (g : Grammar) (records : Bool) : Rule Term := do
  let ts ← rest
  let next := ts.drop 1
  let word? (w : String) := isWord w ts
  if isLiteral ts then
    skip 1
    match ts with
    | .literal l :: _ => return ⟨.literal l, .plain⟩
    | _ => return ⟨.literal .other, .plain⟩
  else if word? "async" && (isGroup .brace next ||
      (isWord "move" next && isGroup .brace (ts.drop 2))) then
    skip 1
    let _ ← tryWord "move"
    return parts (← g.bareBlock)
  else if word? "try" && isGroup .brace next then g.tryBlock
  else if isMarks "|" ts || word? "move" || bindsParameters ts ||
      (word? "const" && !isGroup .brace next) || word? "static" ||
      (word? "async" && (isMarks "|" next || isWord "move" next)) then
    g.closure records
  else if isBuiltin ts then
    builtinForm
    return ⟨.unread, .plain⟩
  else if isName ts || isMarks "::" ts || isMarks "<" ts || isPathWord ts ||
      (word? "try" && (isMarks "!" next || isMarks "::" next)) then
    g.pathExpr records
  else if isGroup .paren ts then g.parenExpr
  else if word? "break" then
    skip 1
    require fun ts => !(isLifetime ts && isMarks ":" (ts.drop 1))
    let _ ← tryLifetime
    g.carried records
  else if word? "continue" then
    skip 1
    let _ ← tryLifetime
    return parts []
  else if word? "return" || word? "yield" then
    skip 1
    g.carried true
  else if word? "become" then
    skip 1
    let _ ← g.expr true
    return ⟨.unread, .plain⟩
  else if isGroup .bracket ts then g.arrayExpr
  else if word? "let" then
    skip 1
    let (_, noted) ← collectCode g.alternatives
    eatMarks "="
    let first ← g.operand records
    let t ← g.operators records comparePrecedence first
    return parts (noted ++ [.expr t.code])
  else if word? "if" then g.conditional
  else if word? "while" then g.whileLoop
  else if word? "for" then g.forLoop
  else if word? "loop" then g.plainLoop
  else if word? "match" then g.matchExpr
  else if word? "unsafe" then g.blockAfter "unsafe"
  else if word? "const" then g.blockAfter "const"
  else if isGroup .brace ts then return blockTerm (← g.block).codes
  else if isMarks ".." ts then return parts (← g.rangeEnd records) .range
  else if word? "_" then
    skip 1
    return parts []
  else if isLifetime ts then g.labeled
  else failure

/-- An operand behind its attributes: prefix operators, or an atom with all that follows it. -/
def operandAfter (g : Grammar) (records : Bool) : Rule Term := do
  let ts ← rest
  if isMarks "&" ts then
    skip 1
    let ts ← rest
    let raw := isWord "raw" ts && (isWord "mut" (ts.drop 1) || isWord "const" (ts.drop 1))
    if raw then skip 2
    else let _ ← tryWord "mut"
    let t ← g.operand records
    return if raw then parts [.expr t.code] else ⟨.reference t.code, .plain⟩
  else if isMarks "*" ts || isMarks "!" ts || isMarks "-" ts then
    skip 1
    return parts [.expr (← g.operand records).code]
  else g.trailers (← g.atom records)

/-- An operand with its attributes, which a range cannot have here. -/
def operandRule (g : Grammar) (records : Bool) : Rule Term := do
  let (attributes, notes) ← collect g.attributes
  let t ← g.operandAfter records
  guard (attributes.isEmpty || t.shape != .range)
  return t.annotate notes

def exprRule (g : Grammar) (records : Bool) : Rule Term := do
  let t ← g.operand records
  g.operators records 0 t

/-- An expression where a statement begins: one that ends with its block goes on only with a point
or a question mark. -/
def statementExprRule (g : Grammar) : Rule Term := do
  let (_, notes) ← collect g.attributes
  let ts ← rest
  let next := ts.drop 1
  let early : Option (Rule Term) :=
    if isWord "if" ts then some g.conditional
    else if isWord "while" ts then some g.whileLoop
    else if isWord "for" ts && !bindsParameters ts then some g.forLoop
    else if isWord "loop" ts then some g.plainLoop
    else if isWord "match" ts then some g.matchExpr
    else if isWord "try" ts && isGroup .brace next then some g.tryBlock
    else if isWord "unsafe" ts then some (g.blockAfter "unsafe")
    else if isWord "const" ts && isGroup .brace next then some (g.blockAfter "const")
    else if isGroup .brace ts then some do return blockTerm (← g.block).codes
    else if isLifetime ts then some g.labeled
    else none
  match early with
  | none =>
    let t ← g.operand true
    g.operators true 0 (t.annotate notes)
  | some r =>
    let t ← r
    if ← peek fun ts => (isMarks "." ts && !isMarks ".." ts) || isMarks "?" ts then
      let chained ← g.trailers t
      g.operators true 0 (chained.annotate notes)
    else return t.annotate notes

end RouteContract.Source.Grammar
