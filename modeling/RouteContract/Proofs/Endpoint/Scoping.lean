import RouteContract.Proofs.Source.Renaming
import RouteContract.Source.Parse

/-!
Which binding a receiver is resolved by. The walk through code treats all names alike, so that it
commutes with every renaming of variables: the sites of renamed code are the renamed sites. From
this, code whose variables are renamed registers the same endpoints as long as no registration is
reached through a captured variable, that is, one whose new name was bound last, in the function
that the call stands in, for another variable. Blocks and closures play no part in this: what they
bind stays for the rest of the function, and a variable renamed inside of one can capture a
receiver behind it.
-/

namespace RouteContract

open Source

namespace Source

variable (ρ : String → String)

def Call.rename (c : Call) : Call :=
  { c with receiver := c.receiver.rename ρ, arguments := c.arguments.map (Expr.rename ρ) }

def SourceFile.rename (f : SourceFile) : SourceFile :=
  { f with lead := renameCodes ρ f.lead, items := renameCodes ρ f.items }

theorem Expr.chain_rename (e : Expr) : (e.rename ρ).chain = e.chain.map (Call.rename ρ) := by
  cases e with
  | method receiver name pos types arguments =>
    simp [Expr.rename, Expr.chain, Expr.chain_rename receiver, Call.rename]
  | invocation name arguments => cases arguments <;> rfl
  | _ => rfl

end Source

variable {index : Index} {ρ : String → String}

namespace Site

def rename (ρ : String → String) (s : Site) : Site :=
  { s with
    scope := s.scope.rename ρ
    call := s.call.rename ρ
    tail := s.tail.map (Call.rename ρ) }

/-- Whether the variable that the receiver starts from is not captured where the site stands. -/
def keepsReceiver (ρ : String → String) (s : Site) : Bool :=
  s.call.receiver.variable?.all (s.scope.keeps ρ)

theorem ofChain_rename (file : String) (scope : Scope) (calls : List Call) :
    ofChain file (scope.rename ρ) (calls.map (Call.rename ρ)) =
      (ofChain file scope calls).map (Site.rename ρ) := by
  induction calls with
  | nil => rfl
  | cons call calls ih =>
    have hname : (call.rename ρ).name = call.name := rfl
    rw [List.map_cons, ofChain, ofChain, hname, ih]
    cases verbSource? call.name with
    | none => rfl
    | some verb => simp [Site.rename, List.takeWhile_map, Function.comp_def, Call.rename]

end Site

namespace Walk

def rename (ρ : String → String) (w : Walk) : Walk :=
  { w with scope := w.scope.rename ρ, sites := w.sites.map (Site.rename ρ) }

theorem bindTyped_rename (w : Walk) (p : Pattern) :
    (w.rename ρ).bindTyped (p.rename ρ) = (w.bindTyped p).rename ρ := by
  cases p <;> rfl

theorem foldl_bindTyped_rename (w : Walk) (params : List Pattern) :
    (params.map (Pattern.rename ρ)).foldl bindTyped (w.rename ρ) =
      (params.foldl bindTyped w).rename ρ := by
  rw [List.foldl_map]
  exact List.foldl_hom (rename ρ) bindTyped_rename

theorem bindLocal_rename (w : Walk) (p : Pattern) (value : Option Expr) :
    (w.rename ρ).bindLocal (p.rename ρ) (value.map (Expr.rename ρ)) =
      (w.bindLocal p value).rename ρ := by
  have hbare : (value.map (Expr.rename ρ)).map Expr.bare =
      (value.map Expr.bare).map (Expr.rename ρ) := by
    simp [Function.comp_def, Expr.bare_rename]
  unfold bindLocal
  rw [hbare]
  cases p with
  | name x =>
    cases value.map Expr.bare with
    | none => rfl
    | some e =>
      cases e with
      | call callee arguments =>
        cases callee with
        | path names inner =>
          simp only [Pattern.rename, Option.map_some, Expr.rename, ownerType?_renamePath]
          cases ownerType? names <;> rfl
        | invocation name arguments => cases arguments <;> rfl
        | _ => rfl
      | invocation name arguments => cases arguments <;> rfl
      | _ => rfl
  | _ => rfl

theorem ofSignature_rename (signature : Signature) (self : Option TypeExpr) :
    Scope.ofSignature (signature.rename ρ) self =
      (Scope.ofSignature signature self).rename ρ := by
  rw [Scope.ofSignature, Signature.rename, List.foldl_map]
  change List.foldl _ (Scope.rename ρ { self, bounds := signature.bounds }) _ = _
  refine List.foldl_hom (Scope.rename ρ) ?_
  rintro s ⟨name, t⟩
  cases name <;> rfl

theorem functionScope_rename (w : Walk) (signature : Signature) :
    (w.rename ρ).functionScope (signature.rename ρ) = (w.functionScope signature).rename ρ := by
  have hcontext : (w.rename ρ).context = w.context := rfl
  rw [functionScope, functionScope, hcontext]
  cases w.context with
  | none => exact ofSignature_rename signature none
  | some c =>
    simp only [ofSignature_rename]
    rfl

theorem inFunction_rename (w : Walk) (signature : Signature) {body body' : Walk → Walk}
    (hbody : ∀ u, body' (u.rename ρ) = (body u).rename ρ) :
    (w.rename ρ).inFunction (signature.rename ρ) body' =
      (w.inFunction signature body).rename ρ := by
  have hafter := hbody { w with scope := w.functionScope signature }
  have hentry : { w.rename ρ with scope := (w.rename ρ).functionScope (signature.rename ρ) } =
      rename ρ { w with scope := w.functionScope signature } := by
    rw [functionScope_rename]
    rfl
  simp only [inFunction, hentry, hafter]
  rfl

theorem inContext_rename (w : Walk) (context : Option ImplContext) {body body' : Walk → Walk}
    (hbody : ∀ u, body' (u.rename ρ) = (body u).rename ρ) :
    (w.rename ρ).inContext context body' = (w.inContext context body).rename ρ := by
  have hafter : body' { w.rename ρ with context } = (body { w with context }).rename ρ :=
    hbody { w with context }
  simp only [inContext, hafter]
  rfl

theorem meetChain_rename (w : Walk) (e : Expr) :
    (w.rename ρ).meetChain (e.rename ρ) = (w.meetChain e).rename ρ := by
  simp [meetChain, rename, Expr.chain_rename, Site.ofChain_rename]

mutual

theorem expr_rename (met : Bool) (w : Walk) (e : Expr) :
    expr met (w.rename ρ) (e.rename ρ) = (expr met w e).rename ρ := by
  cases e with
  | literal value => rfl
  | path names inner => exact exprs_rename w inner
  | call callee arguments =>
    simp only [Expr.rename, expr, expr_rename false w callee, exprs_rename]
  | method receiver name pos types arguments =>
    have hchain := meetChain_rename (ρ := ρ) w (.method receiver name pos types arguments)
    simp only [Expr.rename] at hchain
    cases met with
    | true => exact expr_rename true w receiver
    | false =>
      simp only [Expr.rename, expr, hchain, chainArguments_rename _ receiver, exprs_rename,
        expr_rename true _ receiver, Bool.false_eq_true, if_false]
  | field base name => exact expr_rename false w base
  | reference e => exact expr_rename false w e
  | paren e => exact expr_rename false w e
  | array es => exact exprs_rename w es
  | invocation name arguments => cases arguments <;> rfl
  | closure params parts =>
    simp only [Expr.rename, expr, foldl_bindTyped_rename, codes_rename false _ parts]
  | operation left right =>
    simp only [Expr.rename, expr, expr_rename false w left, codes_rename false _ right]
  | marked notes e =>
    simp only [Expr.rename, expr, exprs_rename w notes, expr_rename false _ e]
  | unread => rfl
  | other parts => exact codes_rename false w parts

theorem chainArguments_rename (w : Walk) (e : Expr) :
    chainArguments (w.rename ρ) (e.rename ρ) = (chainArguments w e).rename ρ := by
  cases e with
  | method receiver name pos types arguments =>
    simp only [Expr.rename, chainArguments, chainArguments_rename w receiver, exprs_rename]
  | invocation name arguments => cases arguments <;> rfl
  | _ => rfl

theorem exprs_rename (w : Walk) (es : List Expr) :
    exprs (w.rename ρ) (renameExprs ρ es) = (exprs w es).rename ρ := by
  cases es with
  | nil => rfl
  | cons e es => simp only [renameExprs, exprs, expr_rename false w e, exprs_rename _ es]

theorem optionalExpr_rename (w : Walk) (e : Option Expr) :
    optionalExpr (w.rename ρ) (renameOptionalExpr ρ e) = (optionalExpr w e).rename ρ := by
  cases e with
  | none => rfl
  | some e => exact expr_rename false w e

theorem code_rename (member : Bool) (w : Walk) (c : Code) :
    code member (w.rename ρ) (c.rename ρ) = (code member w c).rename ρ := by
  cases c with
  | expr e => exact expr_rename false w e
  | binding p lead value otherwise =>
    have hlocal := bindLocal_rename (ρ := ρ) w p value
    rw [← renameOptionalExpr_eq_map] at hlocal
    simp only [Code.rename, code, hlocal, codes_rename false _ lead, optionalExpr_rename _ value,
      codes_rename false _ otherwise]
  | record decl parts => exact codes_rename false w parts
  | choice decl parts => exact codes_rename false w parts
  | typeAlias name target parts => exact codes_rename false w parts
  | constant name lead value =>
    simp only [Code.rename, code, codes_rename false w lead, expr_rename false _ value]
  | function signature parts =>
    simp only [Code.rename, code]
    refine inContext_rename w _ fun u => ?_
    refine inFunction_rename u signature fun v => ?_
    exact codes_rename false v parts
  | imports pairs parts => exact codes_rename false w parts
  | module lead items =>
    simp only [Code.rename, code, codes_rename false w lead, codes_rename false _ items]
  | trait name supers lead members =>
    simp only [Code.rename, code, codes_rename false w lead, codes_rename true _ members]
  | impl self bounds trait lead members =>
    simp only [Code.rename, code]
    refine inContext_rename w _ fun u => ?_
    rw [codes_rename false u lead, codes_rename true _ members]
  | other parts => exact codes_rename false w parts

theorem codes_rename (member : Bool) (w : Walk) (cs : List Code) :
    codes member (w.rename ρ) (renameCodes ρ cs) = (codes member w cs).rename ρ := by
  cases cs with
  | nil => rfl
  | cons c cs => simp only [renameCodes, codes, code_rename member w c, codes_rename member _ cs]

end

theorem sourceFile_rename (w : Walk) (f : SourceFile) :
    (w.rename ρ).sourceFile (f.rename ρ) = (w.sourceFile f).rename ρ := by
  have hlead := codes_rename (ρ := ρ) false { w with file := f.path } f.lead
  refine (congrArg (codes false · (renameCodes ρ f.items)) hlead).trans ?_
  exact codes_rename false _ f.items

end Walk

/-- The sites of renamed code are the renamed sites. -/
theorem sites_rename (files : List SourceFile) :
    sites (files.map (SourceFile.rename ρ)) = (sites files).map (Site.rename ρ) := by
  have hwalk : (files.map (SourceFile.rename ρ)).foldl Walk.sourceFile { file := "" } =
      (files.foldl Walk.sourceFile { file := "" }).rename ρ := by
    rw [List.foldl_map]
    change List.foldl _ (Walk.rename ρ { file := "" }) _ = _
    exact List.foldl_hom (Walk.rename ρ) Walk.sourceFile_rename
  rw [sites, hwalk]
  rfl

theorem Source.Index.isBuilder_rename (scope : Scope) (t : TypeExpr) :
    index.isBuilder (scope.rename ρ) t = index.isBuilder scope t := by
  cases t with
  | reference t => exact isBuilder_rename scope t
  | paren t => exact isBuilder_rename scope t
  | named lead name applied arguments =>
    cases arguments with
    | nil => rfl
    | cons t arguments =>
      have hfirst := isBuilder_rename scope t
      simp only [isBuilder, hfirst]
      rfl
  | _ => rfl

section Endpoints

variable (hρ : index.RenamesVariables ρ)
include hρ

theorem Metadata.applyCall_rename (m : Metadata) (call : Call) :
    applyCall index m (call.rename ρ) = applyCall index m call :=
  applyCall_of_translates (translates_rename hρ) rfl rfl
    (forall₂_map_right_of fun _ => Or.inl rfl)

theorem Metadata.ofCalls_rename (calls : List Call) :
    ofCalls index (calls.map (Call.rename ρ)) = ofCalls index calls := by
  rw [ofCalls, List.foldl_map]
  simp only [applyCall_rename hρ]
  rfl

namespace Site

theorem verbAndPath?_rename (s : Site) :
    (s.rename ρ).verbAndPath? index =
      (s.verbAndPath? index).map fun (verb, path) => (verb, path.rename ρ) := by
  obtain ⟨file, scope, ⟨receiver, name, pos, types, arguments⟩, verb, tail⟩ := s
  simp only [verbAndPath?, Site.rename, Call.rename]
  cases verb with
  | fixed verb => cases arguments <;> rfl
  | argument =>
    match arguments with
    | [] => rfl
    | [_] => rfl
    | verb :: path :: _ =>
      simp only [List.map_cons, argumentVerb?_rename hρ]
      cases argumentVerb? index verb <;> rfl

theorem typeArguments_rename {s : Site} (hkept : s.keepsReceiver ρ) :
    (s.rename ρ).typeArguments index = s.typeArguments index := by
  have hreceiver := receiverType?_rename hρ s.call.receiver hkept
  simp only [typeArguments, Index.resolve, Site.rename, Call.rename, hreceiver,
    handlerTypes_rename hρ, Index.isBuilder_rename]

theorem endpointOf?_rename (s : Site) (types : List TypeExpr) :
    (s.rename ρ).endpointOf? index types = s.endpointOf? index types := by
  have hmetadata (requestType : String) :
      Metadata.ofEndpoint index (s.rename ρ).tail requestType =
        Metadata.ofEndpoint index s.tail requestType := by
    simp only [Metadata.ofEndpoint, Site.rename, Metadata.ofCalls_rename hρ]
  match types with
  | [] => rfl
  | [_] => rfl
  | request :: response :: _ =>
    simp only [endpointOf?, verbAndPath?_rename hρ]
    cases s.verbAndPath? index with
    | none => rfl
    | some found =>
      simp only [Option.map_some, Option.bind_eq_bind, Option.bind_some, constant?_rename hρ,
        hmetadata]
      rfl

theorem endpoint?_rename {s : Site} (hkept : s.keepsReceiver ρ) :
    (s.rename ρ).endpoint? index = s.endpoint? index := by
  simp only [endpoint?, typeArguments_rename hρ hkept, endpointOf?_rename hρ]

end Site

end Endpoints

theorem mapM_congr {α β ε : Type} {f g : α → Except ε β} {as : List α}
    (heq : ∀ a ∈ as, f a = g a) : as.mapM f = as.mapM g := by
  induction as with
  | nil => rfl
  | cons a as ih =>
    have hrest := ih fun b hb => heq b (List.mem_cons_of_mem a hb)
    rw [List.mapM_cons, List.mapM_cons, heq a List.mem_cons_self, hrest]

/-- Renaming variables, wherever they are bound, leaves the endpoints of a service unchanged as long
as no registration is reached through a captured variable. A variable of a block or a closure can so
get the name of one around it, or a fresh name in place of that, if no registration behind it in the
function goes through the other one. -/
theorem endpoints_rename (index : Index) (ρ : String → String) (hρ : index.RenamesVariables ρ)
    (files : List SourceFile) (hkept : ∀ s ∈ sites files, s.keepsReceiver ρ) :
    endpoints index (files.map (SourceFile.rename ρ)) = endpoints index files := by
  rw [endpoints, endpoints, sites_rename, List.mapM_map]
  refine congrArg (· >>= _) (mapM_congr fun s hs => ?_)
  rw [Function.comp_apply, Site.endpoint?_rename hρ (hkept s hs)]
  rfl

/-- The variables of a block and of a closure get the name of the route builder around them. No
registration through the builder stands behind them in its function. -/
theorem endpoints_rename_cache :
    let types := [TypeExpr.ofName "Request", TypeExpr.ofName "Response"]
    let builder := TypeExpr.bounded ["RouteBuilder"]
    let register (receiver method : String) (line : Nat) (path : String) : Code :=
      .expr (.method (.path [receiver] []) method ⟨line, 9⟩ types [.literal (.text path)])
    let block : Code := .expr (.other
      [.binding (.typed "cache" (.ofName "Cache")) [] none [],
        register "cache" "map_put" 3 "/v1/c"])
    let closure : Code := .expr (.closure [.typed "cache" builder]
      [register "cache" "map_post" 4 "/v1/b"])
    let function (name : String) (body : List Code) : Code :=
      .function { name, params := [⟨some "routes", builder⟩] } body
    let file : SourceFile :=
      { path := "lib.rs"
        items := [function "f" [register "routes" "map_get" 2 "/v1/a", block, closure],
          function "g" [register "routes" "map_get" 7 "/v1/d"]] }
    let index := Index.ofFiles [file]
    let ρ := fun name => if name = "cache" then "routes" else name
    index.RenamesVariables ρ ∧ (∀ s ∈ sites [file], s.keepsReceiver ρ) ∧
      (endpoints index [file.rename ρ]).toOption.map (·.map (·.path)) =
        some ["/v1/a", "/v1/b", "/v1/d"] := by
  intro types builder register block closure function file index ρ
  have hρ : index.RenamesVariables ρ := by
    intro name hname
    by_cases hcache : name = "cache"
    · subst hcache
      exact ⟨⟨by decide, rfl, rfl, by decide, by decide⟩, by decide, rfl, rfl, by decide, by decide⟩
    · exact absurd (if_neg hcache) hname
  have hkept : ∀ s ∈ sites [file], s.keepsReceiver ρ := by decide
  refine ⟨hρ, hkept, ?_⟩
  have hendpoints := endpoints_rename index ρ hρ [file] hkept
  rw [List.map_singleton] at hendpoints
  rw [hendpoints]
  decide +kernel

/-- A variable of an inner block or of a closure changes how a registration behind it is read, in
either way, where the variable has the name of the receiver. -/
theorem endpoints_of_inner_variable :
    let scan (text : String) := (parseFile? "lib.rs" text).map fun file =>
      (endpoints (Index.ofFiles [file]) [file]).toOption.map (·.map (·.path))
    let block (name : String) := "fn f(r: impl RouteBuilder) \x7b \x7b let " ++ name ++
      ": C = c(); \x7d r.map_get::<A, B>(\"/a\"); \x7d"
    let closure (name : String) := "fn f(r: C) \x7b each(|" ++ name ++
      ": &dyn RouteBuilder| 0); r.map_get::<A, B>(\"/a\"); \x7d"
    scan (block "x") = some (some ["/a"]) ∧ scan (block "r") = some (some []) ∧
    scan (closure "x") = some (some []) ∧ scan (closure "r") = some (some ["/a"]) := by
  intro scan block closure
  refine ⟨?_, ?_, ?_, ?_⟩
  · decide +kernel
  · decide +kernel
  · decide +kernel
  · decide +kernel

end RouteContract
