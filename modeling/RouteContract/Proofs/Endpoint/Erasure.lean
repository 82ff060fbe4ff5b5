import RouteContract.Proofs.Source.Erasure

/-!
Erasure and the scan. Scopes hold the types of variables, of which erasure changes none, and the
walk does not look at type arguments: the sites of erased code are the erased sites. Of a site all
but the type arguments of its registration is read alike before and after.
-/

namespace RouteContract

open Source

namespace Site

def erase (s : Site) : Site :=
  { s with call := s.call.erase, tail := s.tail.map Call.erase }

theorem ofChain_erase (file : String) (scope : Scope) (calls : List Call) :
    ofChain file scope (calls.map Call.erase) = (ofChain file scope calls).map erase := by
  induction calls with
  | nil => rfl
  | cons call calls ih =>
    have hname : call.erase.name = call.name := rfl
    rw [List.map_cons, ofChain, ofChain, hname, ih]
    cases verbSource? call.name with
    | none => rfl
    | some verb => simp [erase, List.takeWhile_map, Function.comp_def, Call.erase]

end Site

namespace Walk

def erase (w : Walk) : Walk := { w with sites := w.sites.map Site.erase }

theorem foldl_bindTyped_erase (w : Walk) (params : List Pattern) :
    params.foldl bindTyped w.erase = (params.foldl bindTyped w).erase :=
  List.foldl_hom erase fun _ p => by cases p <;> rfl

theorem bindLocal_erase (w : Walk) (p : Pattern) (value : Option Expr) :
    w.erase.bindLocal p (value.map Expr.erase) = (w.bindLocal p value).erase := by
  have hbare : (value.map Expr.erase).map Expr.bare = (value.map Expr.bare).map Expr.erase := by
    simp [Function.comp_def, Expr.bare_erase]
  unfold bindLocal
  rw [hbare]
  cases p with
  | name x =>
    cases value.map Expr.bare with
    | none => rfl
    | some e =>
      cases e with
      | call callee arguments =>
        cases callee with
        | path names inner =>
          simp only [Option.map_some, Expr.erase]
          cases ownerType? names <;> rfl
        | invocation name arguments => cases arguments <;> rfl
        | _ => rfl
      | invocation name arguments => cases arguments <;> rfl
      | _ => rfl
  | _ => rfl

theorem inFunction_erase (w : Walk) (signature : Signature) {body body' : Walk → Walk}
    (hbody : ∀ u, body' u.erase = (body u).erase) :
    w.erase.inFunction signature body' = (w.inFunction signature body).erase := by
  have hafter := hbody { w with scope := w.functionScope signature }
  have hentry : { w.erase with scope := w.erase.functionScope signature } =
      erase { w with scope := w.functionScope signature } := rfl
  simp only [inFunction, hentry, hafter]
  rfl

theorem inContext_erase (w : Walk) (context : Option ImplContext) {body body' : Walk → Walk}
    (hbody : ∀ u, body' u.erase = (body u).erase) :
    w.erase.inContext context body' = (w.inContext context body).erase := by
  have hafter : body' { w.erase with context } = (body { w with context }).erase :=
    hbody { w with context }
  simp only [inContext, hafter]
  rfl

theorem meetChain_erase (w : Walk) (e : Expr) :
    w.erase.meetChain e.erase = (w.meetChain e).erase := by
  simp [meetChain, erase, Expr.chain_erase, Site.ofChain_erase]

mutual

theorem expr_erase (met : Bool) (w : Walk) (e : Expr) :
    expr met w.erase e.erase = (expr met w e).erase := by
  cases e with
  | literal value => rfl
  | path names inner => simp only [Expr.erase, expr, exprs_erase w inner]
  | call callee arguments =>
    simp only [Expr.erase, expr, expr_erase false w callee, exprs_erase]
  | method receiver name pos types arguments =>
    have hchain := meetChain_erase w (.method receiver name pos types arguments)
    simp only [Expr.erase] at hchain
    cases met with
    | true => simp only [Expr.erase, expr, if_true, expr_erase true w receiver]
    | false =>
      simp only [Expr.erase, expr, hchain, chainArguments_erase _ receiver, exprs_erase,
        expr_erase true _ receiver, Bool.false_eq_true, if_false]
  | field base name => simp only [Expr.erase, expr, expr_erase false w base]
  | reference e => simp only [Expr.erase, expr, expr_erase false w e]
  | paren e => simp only [Expr.erase, expr, expr_erase false w e]
  | array es => simp only [Expr.erase, expr, exprs_erase w es]
  | invocation name arguments => cases arguments <;> rfl
  | closure params parts =>
    simp only [Expr.erase, expr, foldl_bindTyped_erase, codes_erase false _ parts]
  | operation left right =>
    simp only [Expr.erase, expr, expr_erase false w left, codes_erase false _ right]
  | marked notes e =>
    simp only [Expr.erase, expr, exprs_erase w notes, expr_erase false _ e]
  | unread => rfl
  | other parts => simp only [Expr.erase, expr, codes_erase false w parts]

theorem chainArguments_erase (w : Walk) (e : Expr) :
    chainArguments w.erase e.erase = (chainArguments w e).erase := by
  cases e with
  | method receiver name pos types arguments =>
    simp only [Expr.erase, chainArguments, chainArguments_erase w receiver, exprs_erase]
  | invocation name arguments => cases arguments <;> rfl
  | _ => rfl

theorem exprs_erase (w : Walk) (es : List Expr) :
    exprs w.erase (eraseExprs es) = (exprs w es).erase := by
  cases es with
  | nil => rfl
  | cons e es => simp only [eraseExprs, exprs, expr_erase false w e, exprs_erase _ es]

theorem optionalExpr_erase (w : Walk) (e : Option Expr) :
    optionalExpr w.erase (eraseOptionalExpr e) = (optionalExpr w e).erase := by
  cases e with
  | none => rfl
  | some e => exact expr_erase false w e

theorem code_erase (member : Bool) (w : Walk) (c : Code) :
    code member w.erase c.erase = (code member w c).erase := by
  cases c with
  | expr e => simp only [Code.erase, code, expr_erase false w e]
  | binding p lead value otherwise =>
    have hlocal := bindLocal_erase w p value
    rw [← eraseOptionalExpr_eq_map] at hlocal
    simp only [Code.erase, code, hlocal, codes_erase false _ lead, optionalExpr_erase _ value,
      codes_erase false _ otherwise]
  | record decl parts => simp only [Code.erase, code, codes_erase false w parts]
  | choice decl parts => simp only [Code.erase, code, codes_erase false w parts]
  | typeAlias name target parts => simp only [Code.erase, code, codes_erase false w parts]
  | constant name lead value =>
    simp only [Code.erase, code, codes_erase false w lead, expr_erase false _ value]
  | function signature parts =>
    simp only [Code.erase, code]
    refine inContext_erase w _ fun u => ?_
    refine inFunction_erase u signature fun v => ?_
    exact codes_erase false v parts
  | imports pairs parts => simp only [Code.erase, code, codes_erase false w parts]
  | module lead items =>
    simp only [Code.erase, code, codes_erase false w lead, codes_erase false _ items]
  | trait name supers lead members =>
    simp only [Code.erase, code, codes_erase false w lead, codes_erase true _ members]
  | impl self bounds trait lead members =>
    simp only [Code.erase, code]
    refine inContext_erase w _ fun u => ?_
    rw [codes_erase false u lead, codes_erase true _ members]
  | other parts => simp only [Code.erase, code, codes_erase false w parts]

theorem codes_erase (member : Bool) (w : Walk) (cs : List Code) :
    codes member w.erase (eraseCodes cs) = (codes member w cs).erase := by
  cases cs with
  | nil => rfl
  | cons c cs => simp only [eraseCodes, codes, code_erase member w c, codes_erase member _ cs]

end

theorem sourceFile_erase (w : Walk) (f : SourceFile) :
    w.erase.sourceFile f.erase = (w.sourceFile f).erase := by
  have hstart : { w.erase with file := f.path } = erase { w with file := f.path } := rfl
  have hlead := codes_erase false { w with file := f.path } f.lead
  simp only [sourceFile, SourceFile.erase, hstart, hlead, codes_erase false _ f.items]

end Walk

/-- The sites of erased code are the erased sites. -/
theorem sites_erase (files : List SourceFile) :
    sites (files.map SourceFile.erase) = (sites files).map Site.erase := by
  have hwalk : (files.map SourceFile.erase).foldl Walk.sourceFile { file := "" } =
      (files.foldl Walk.sourceFile { file := "" }).erase := by
    rw [List.foldl_map]
    change List.foldl _ (Walk.erase { file := "" }) _ = _
    exact List.foldl_hom Walk.erase Walk.sourceFile_erase
  rw [sites, hwalk]
  rfl

namespace Site

variable (index : Index)

theorem argumentVerb?_erase (e : Expr) :
    argumentVerb? index.erase e.erase = argumentVerb? index e := by
  rw [argumentVerb?, argumentVerb?, Index.constant?_erase, Expr.lastName?_erase]

theorem verbAndPath?_erase (s : Site) :
    s.erase.verbAndPath? index.erase =
      (s.verbAndPath? index).map (Prod.map id Expr.erase) := by
  obtain ⟨file, scope, ⟨receiver, name, pos, types, arguments⟩, verb, tail⟩ := s
  simp only [verbAndPath?, erase, Call.erase]
  cases verb with
  | fixed verb => cases arguments <;> rfl
  | argument =>
    cases arguments with
    | nil => rfl
    | cons verb more =>
      cases more with
      | nil => rfl
      | cons path more =>
        simp only [List.map_cons, argumentVerb?_erase]
        cases argumentVerb? index verb <;> rfl

/-- The endpoint of given types at a site does not depend on what erasure forgets. -/
theorem endpointOf?_erase (s : Site) (types : List TypeExpr) :
    s.erase.endpointOf? index.erase types = s.endpointOf? index types := by
  match types with
  | [] => rfl
  | [_] => rfl
  | request :: response :: _ =>
    have hmetadata (requestType : String) :
        Metadata.ofEndpoint index.erase s.erase.tail requestType =
          Metadata.ofEndpoint index s.tail requestType :=
      Metadata.ofEndpoint_erase index s.tail requestType
    have hfile : s.erase.file = s.file := rfl
    have hline : s.erase.call.pos.line = s.call.pos.line := rfl
    simp only [endpointOf?, verbAndPath?_erase, hmetadata, hfile, hline]
    cases s.verbAndPath? index with
    | none => rfl
    | some found =>
      simp only [Option.map_some, Prod.map_fst, Prod.map_snd, id_eq, Option.bind_eq_bind,
        Option.bind_some, Index.constant?_erase]

end Site

end RouteContract
