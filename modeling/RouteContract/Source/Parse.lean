import RouteContract.Source.Grammar.Item
import RouteContract.Source.Token.Lexer

/-!
Reading source text: a whole file, or a single type, expression, signature or implementation. What
is not accepted has no answer.
-/

namespace RouteContract.Source

open Rule

/-- The grammar that nests its rules at most so deep. -/
def grammar : Nat → Grammar
  | 0 => .nothing
  | n + 1 => {
      typeForm := fun plus s => (grammar n).typeRule plus s
      bound := fun place s => (grammar n).boundRule place s
      expr := fun records s => (grammar n).exprRule records s
      statementExpr := fun s => (grammar n).statementExprRule s
      operand := fun records s => (grammar n).operandRule records s
      operators := fun records base left s => (grammar n).operatorsRule records base left s
      pattern := fun s => (grammar n).patternRule s
      statements := fun s => (grammar n).statementsRule s
      item := fun s => (grammar n).itemRule s
      fields := fun s => (grammar n).fieldsRule s
      imports := fun roots s => (grammar n).importsRule roots s }

/-- A depth that suffices for some trees: between two tokens only few rules call each other. -/
def depthFor (ts : List Tree) : Nat := 16 * treesSize ts + 64

/-- Reads a text to its end by a rule. -/
def parse? {α : Type} (rule : Grammar → Rule α) (text : String) : Option α :=
  (tokens? text).bind fun ts => readAll (rule (grammar (depthFor ts))) ts

def parseType? (text : String) : Option TypeExpr :=
  parse? (·.type true) text

def parseExpr? (text : String) : Option Expr :=
  (parse? (·.expr true) text).map (·.code)

/-- A text that is a method call as a whole. -/
def parseCall? (text : String) : Option Call :=
  (parseExpr? text).bind Expr.call?

def parseSignature? (text : String) : Option Signature :=
  parse? Grammar.signature text

/-- The bounds that the generic parameters of an implementation have. -/
def parseImplBounds? (text : String) : Option Bounds :=
  let rule (g : Grammar) : Rule Code := do
    let _ ← g.attributes
    g.implItem false false []
  match parse? rule text with
  | some (.impl _ bounds _ _ _) => some bounds
  | _ => none

/-- A file, given its path and its text. -/
def parseFile? (path text : String) : Option SourceFile :=
  (fileTokens? text).bind fun ts =>
    let g := grammar (depthFor ts)
    readAll (do
      let (_, lead) ← collectCode g.innerAttributes
      return { path, lead, items := ← manyWhile (!·.isEmpty) g.item }) ts

end RouteContract.Source
