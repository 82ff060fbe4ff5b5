import Mathlib
import RouteContract.Proofs.Document.Erasure
import RouteContract.Proofs.Endpoint.Erasure

/-!
Aliases in registrations. Where the type of a receiver is known, the type arguments of a
registration are expanded, so that an alias may stand for the type it names: the document of the
service is the same, and so are its endpoints and warnings. An expansion ends after nine steps, one
of which goes to the target of the alias, so that the target itself may take eight. The types of
declared responses are not expanded; there an alias is a name of its own, and the document refers to
a component that it does not have.
-/

namespace RouteContract

open Source

namespace Source.Index

/-- Whether an expansion leads nowhere after at most `n` steps. -/
def endsWithin (index : Index) : Nat → TypeExpr → Bool
  | 0, t =>
    match index.step t with
    | .stop => true
    | _ => false
  | n + 1, t =>
    match index.step t with
    | .stop => true
    | .type target => index.endsWithin n target
    | .rename name => isRawName name || index.endsWithin n (renamed name t)

variable {index : Index}

/-- One more step does not change an expansion that has ended. -/
theorem expandWithin_succ_of_endsWithin {n : Nat} {t : TypeExpr} (hends : index.endsWithin n t) :
    index.expandWithin (n + 1) t = index.expandWithin n t := by
  induction n generalizing t with
  | zero =>
    rw [endsWithin] at hends
    rw [expandWithin, expandWithin]
    split at hends
    · next hstop => rw [hstop]
    · cases hends
  | succ n ih =>
    rw [endsWithin] at hends
    rw [expandWithin, expandWithin]
    cases hstep : index.step t with
    | stop => rfl
    | type target =>
      rw [hstep] at hends
      exact ih hends
    | rename name =>
      rw [hstep] at hends
      by_cases hraw : isRawName name
      · simp only [hraw, if_true]
      · simp only [hraw, Bool.false_or] at hends
        simp only [hraw, Bool.false_eq_true, if_false]
        exact ih hends

/-- An alias expands like its target, if the target leaves room for the step to it. -/
theorem expand_alias {name : String} {target : TypeExpr}
    (halias : index.aliases.lookup name = some target) (hends : index.endsWithin 8 target) :
    index.expand (.ofName name) = index.expand target := by
  have hstep : index.step (.ofName name) = .type target := by
    simp [step, TypeExpr.ofName, halias]
  calc index.expand (.ofName name)
      = index.expandWithin 8 target := by rw [expand, expansionSteps, expandWithin, hstep]
    _ = index.expand target := (expandWithin_succ_of_endsWithin hends).symm

end Source.Index

/-- Which endpoints are repetitions does not change when places move, if no two become one. -/
theorem distinctPlaces_map {shift : Place → Place} (hshift : Function.Injective shift)
    (seen : List Place) (entries : List (Place × Endpoint)) :
    distinctPlaces (seen.map shift) (entries.map (Prod.map shift id)) =
      distinctPlaces seen entries := by
  induction entries generalizing seen with
  | nil => rfl
  | cons entry entries ih =>
    obtain ⟨place, e⟩ := entry
    have hseen : (seen.map shift).contains (shift place) = seen.contains place := by
      rw [Bool.eq_iff_iff, List.contains_iff_mem, List.contains_iff_mem,
        List.mem_map_of_injective hshift]
    rw [List.map_cons, Prod.map_apply, distinctPlaces, distinctPlaces, hseen, ← List.map_cons, ih,
      ih]
    rfl

/-- A type as before, or an alias in place of the name that it stands for. -/
def Source.TypeExpr.Respelled (name target : String) (t t' : TypeExpr) : Prop :=
  t' = t ∨ t = .ofName target ∧ t' = .ofName name

/-- One site under two ways of writing: some of its type arguments are written as an alias in place
of its target, where the type of the receiver is known, and it may stand in another column. -/
structure Site.Respelled (index : Index) (name target : String) (shift : Place → Place)
    (s s' : Site) : Prop where
  types : List.Forall₂ (TypeExpr.Respelled name target) s.call.types s'.call.types
  resolved : s'.call.types ≠ s.call.types →
    (index.receiverType? s.scope s.call.receiver).isSome
  place : s'.place = shift s.place

namespace Site

variable {index index' : Index} {name target : String} {shift : Place → Place} {s s' : Site}

theorem typeArguments_of_unknown (hreceiver : index.receiverType? s.scope s.call.receiver = none) :
    s.typeArguments index = .ok s.call.types := by
  rw [typeArguments, Index.resolve, hreceiver]
  rfl

theorem typeArguments_of_known {t : TypeExpr}
    (hreceiver : index.receiverType? s.scope s.call.receiver = some t) :
    s.typeArguments index =
      ((if s.call.types.isEmpty then index.handlerTypes s.call.arguments
        else s.call.types).mapM index.expand).map
          fun types => if index.isBuilder s.scope t then types else [] := by
  rw [typeArguments, Index.resolve, hreceiver]
  simp only
  generalize List.mapM index.expand _ = expanded
  cases expanded <;> rfl

theorem mapM_expand_of_respelled {types types' : List TypeExpr}
    (hexpand : index.expand (.ofName name) = index.expand (.ofName target))
    (htypes : List.Forall₂ (TypeExpr.Respelled name target) types types') :
    types'.isEmpty = types.isEmpty ∧ types'.mapM index.expand = types.mapM index.expand := by
  induction htypes with
  | nil => exact ⟨rfl, rfl⟩
  | cons hhead _ ih =>
    refine ⟨rfl, ?_⟩
    rw [List.mapM_cons, List.mapM_cons, ih.2]
    obtain rfl | ⟨rfl, rfl⟩ := hhead
    · rfl
    · rw [hexpand]

theorem typeArguments_of_respelled (hindex : index'.erase = index.erase)
    (hsite : s'.erase = s.erase)
    (hexpand : index.expand (.ofName name) = index.expand (.ofName target))
    (hrespelled : Respelled index name target shift s s') :
    s'.typeArguments index' = s.typeArguments index := by
  have hscope : s'.scope = s.scope := by
    have herased : s'.erase.scope = s.erase.scope := congrArg Site.scope hsite
    exact herased
  have hreceiver : index'.receiverType? s'.scope s'.call.receiver =
      index.receiverType? s.scope s.call.receiver := by
    rw [← Index.receiverType?_erase index', ← Index.receiverType?_erase index, hindex, hscope]
    exact congrArg (fun s => index.erase.receiverType? _ s.call.receiver) hsite
  cases hknown : index.receiverType? s.scope s.call.receiver with
  | none =>
    -- Where the receiver is not known types are taken as written, and none has been changed.
    have hsame : s'.call.types = s.call.types := by
      by_contra hne
      have hsome := hrespelled.resolved hne
      rw [hknown] at hsome
      cases hsome
    rw [typeArguments_of_unknown hknown, typeArguments_of_unknown (hreceiver.trans hknown), hsame]
  | some t =>
    have hhandler :
        index'.handlerTypes s'.call.arguments = index.handlerTypes s.call.arguments := by
      rw [← Index.handlerTypes_erase index', ← Index.handlerTypes_erase index, hindex]
      exact congrArg (fun s => index.erase.handlerTypes s.call.arguments) hsite
    have hbuilder : index'.isBuilder s'.scope t = index.isBuilder s.scope t := by
      rw [← Index.isBuilder_erase index', ← Index.isBuilder_erase index, hindex, hscope]
    have hexpanded : index'.expand = index.expand := by
      funext t
      rw [← Index.expand_erase index', ← Index.expand_erase index, hindex]
    obtain ⟨hempty, hwritten⟩ := mapM_expand_of_respelled hexpand hrespelled.types
    rw [typeArguments_of_known hknown, typeArguments_of_known (hreceiver.trans hknown), hhandler,
      hbuilder, hexpanded, hempty]
    by_cases hnone : s.call.types.isEmpty
    · rw [if_pos hnone, if_pos hnone]
    · rw [if_neg hnone, if_neg hnone, hwritten]

theorem endpoint?_of_respelled (hindex : index'.erase = index.erase) (hsite : s'.erase = s.erase)
    (hexpand : index.expand (.ofName name) = index.expand (.ofName target))
    (hrespelled : Respelled index name target shift s s') :
    s'.endpoint? index' = s.endpoint? index := by
  have hof (types : List TypeExpr) : s'.endpointOf? index' types = s.endpointOf? index types := by
    rw [← endpointOf?_erase index', ← endpointOf?_erase index, hindex, hsite]
  simp only [endpoint?, typeArguments_of_respelled hindex hsite hexpand hrespelled, hof]

end Site

/-- Sites that differ in the spelling of their types register the same endpoints, at places that
have moved. -/
theorem mapM_endpoint?_of_respelled {index index' : Index} {name target : String}
    {shift : Place → Place} {found found' : List Site} (hindex : index'.erase = index.erase)
    (hexpand : index.expand (.ofName name) = index.expand (.ofName target))
    (herased : found'.map Site.erase = found.map Site.erase)
    (hfound : List.Forall₂ (Site.Respelled index name target shift) found found') :
    (found'.mapM fun s : Site => do return (← s.endpoint? index').map (s.place, ·)) =
      (found.mapM fun s : Site => do return (← s.endpoint? index).map (s.place, ·)).map
        (List.map (Option.map (Prod.map shift id))) := by
  induction hfound with
  | nil => rfl
  | @cons s s' rest rest' hsite _ ih =>
    obtain ⟨hhead, htail⟩ := List.cons.inj herased
    have hendpoint := Site.endpoint?_of_respelled hindex hhead hexpand hsite
    rw [List.mapM_cons, List.mapM_cons, ih htail, hendpoint, hsite.place]
    generalize List.mapM (m := Except Breakdown) _ rest = others
    cases s.endpoint? index with
    | error b => rfl
    | ok e =>
      cases others with
      | error b => rfl
      | ok others => cases e <;> rfl

theorem endpoints_of_respelled {index index' : Index} {name target : String}
    {shift : Place → Place} {files files' : List SourceFile} (hindex : index'.erase = index.erase)
    (hexpand : index.expand (.ofName name) = index.expand (.ofName target))
    (hfiles : files'.map SourceFile.erase = files.map SourceFile.erase)
    (hshift : Function.Injective shift)
    (hsites : List.Forall₂ (Site.Respelled index name target shift) (sites files) (sites files')) :
    endpoints index' files' = endpoints index files := by
  have herased : (sites files').map Site.erase = (sites files).map Site.erase := by
    rw [← sites_erase, ← sites_erase, hfiles]
  rw [endpoints, endpoints, mapM_endpoint?_of_respelled hindex hexpand herased hsites]
  generalize List.mapM (m := Except Breakdown) _ (sites files) = found
  cases found with
  | error b => rfl
  | ok found =>
    have hmoved : (found.map (Option.map (Prod.map shift id))).filterMap id =
        (found.filterMap id).map (Prod.map shift id) := by
      rw [List.filterMap_map, List.map_filterMap]
      rfl
    have hdistinct := distinctPlaces_map hshift [] (found.filterMap id)
    rw [← hmoved] at hdistinct
    exact congrArg Except.ok hdistinct

/-- Writing an alias in place of its target among the type arguments of registrations, in any number
of them, leaves the document of a service unchanged, and with it the endpoints, the warnings and the
reason of a failure. -/
theorem Generated.ofFiles_of_respelled (info : Info) (builderTrait : String)
    {files files' : List SourceFile} {name target : String} {shift : Place → Place}
    (hfiles : files'.map SourceFile.erase = files.map SourceFile.erase)
    (halias : (Index.ofFiles files builderTrait).aliases.lookup name = some (.ofName target))
    (hends : (Index.ofFiles files builderTrait).endsWithin 8 (.ofName target))
    (hshift : Function.Injective shift)
    (hsites : List.Forall₂ (Site.Respelled (Index.ofFiles files builderTrait) name target shift)
      (sites files) (sites files')) :
    ofFiles (Index.ofFiles files' builderTrait) info files' =
      ofFiles (Index.ofFiles files builderTrait) info files := by
  have hindex : (Index.ofFiles files' builderTrait).erase =
      (Index.ofFiles files builderTrait).erase := by
    rw [← Index.ofFiles_erase, ← Index.ofFiles_erase, hfiles]
  have hfields : (Index.ofFiles files' builderTrait).fieldsOf =
      (Index.ofFiles files builderTrait).fieldsOf := by
    funext name
    rw [← Index.fieldsOf_erase, hindex, Index.fieldsOf_erase]
  have hendpoints := endpoints_of_respelled hindex (Index.expand_alias halias hends) hfiles hshift
    hsites
  rw [ofFiles, ofFiles, hendpoints]
  simp only [ofEndpoints_congr hfields]

/-- Two registrations on one line, written with an alias that is one letter longer than the name it
stands for: as the request type of the first and as the response type of the second. -/
theorem Generated.ofFiles_of_respelled_items :
    let register (method : String) (column : Nat) (request response path : String) : Code :=
      .expr (.method (.path ["routes"] []) method ⟨5, column⟩ [.ofName request, .ofName response]
        [.literal (.text path)])
    let file (type : String) (column : Nat) : SourceFile :=
      { path := "lib.rs"
        items :=
          [.record { name := "Item", fields := [{ name := "id", type := .ofName "u32" }] } [],
            .typeAlias "Goods" (.ofName "Item") [],
            .function { name := "f", params := [⟨some "routes", .bounded ["RouteBuilder"]⟩] }
              [register "map_post" 12 type "Reply" "/v1/items",
                register "map_get" column "Query" type "/v1/items"]] }
    let files := [file "Item" 60]
    let files' := [file "Goods" 61]
    let index := Index.ofFiles files
    let shift (p : Place) : Place :=
      ⟨p.file, p.pos.line, if 60 ≤ p.pos.column then p.pos.column + 1 else p.pos.column⟩
    files'.map SourceFile.erase = files.map SourceFile.erase ∧
    index.aliases.lookup "Goods" = some (.ofName "Item") ∧ index.endsWithin 8 (.ofName "Item") ∧
    Function.Injective shift ∧
    List.Forall₂ (Site.Respelled index "Goods" "Item" shift) (sites files) (sites files') ∧
    ofFiles (Index.ofFiles files') Document.defaultInfo files' =
      ofFiles index Document.defaultInfo files ∧
    (RouteContract.endpoints index files).toOption.map
        (·.map fun e => (e.requestType, e.responseType)) =
      some [("Item", "Reply"), ("Query", "Item")] := by
  intro register file files files' index shift
  have hfiles : files'.map SourceFile.erase = files.map SourceFile.erase := rfl
  have halias : index.aliases.lookup "Goods" = some (.ofName "Item") := rfl
  have hends : index.endsWithin 8 (.ofName "Item") := by decide
  have hshift : Function.Injective shift := by
    rintro ⟨file, line, column⟩ ⟨file', line', column'⟩ hsame
    simp only [shift, Place.mk.injEq, Pos.mk.injEq] at hsame ⊢
    refine ⟨hsame.1, hsame.2.1, ?_⟩
    have hcolumn := hsame.2.2
    split at hcolumn <;> split at hcolumn <;> omega
  have hsites : List.Forall₂ (Site.Respelled index "Goods" "Item" shift) (sites files)
      (sites files') := by
    refine .cons ⟨?_, fun _ => rfl, rfl⟩ (.cons ⟨?_, fun _ => rfl, rfl⟩ .nil)
    · exact .cons (.inr ⟨rfl, rfl⟩) (.cons (.inl rfl) .nil)
    · exact .cons (.inl rfl) (.cons (.inr ⟨rfl, rfl⟩) .nil)
  refine ⟨hfiles, halias, hends, hshift, hsites, ?_, by decide +kernel⟩
  exact ofFiles_of_respelled Document.defaultInfo _ hfiles halias hends hshift hsites

/-- An alias as the type of a declared response, in a chained call or in an attribute of the request
type: the document refers to the alias, and neither it nor the type it names is a component. -/
theorem Generated.ofFiles_of_declared_alias :
    let references (o : Operation) : List String := o.responses.flatMap fun entry =>
      match entry.2 with
      | .inline _ (some content) => content.entries.filterMap (·.2.reference)
      | _ => []
    let generate (file : SourceFile) :=
      (ofFiles (Index.ofFiles [file]) Document.defaultInfo [file]).toOption.map fun g =>
        (g.document.schemas.map (·.1),
          g.document.paths.flatMap fun path =>
            path.2.operations.flatMap fun entry => references entry.2)
    let register : Expr :=
      .method (.path ["r"] []) "map_get" ⟨3, 5⟩ [.ofName "Q", .ofName "R"] [.literal (.text "/a")]
    let service (notes : List (Attribute Expr)) (body : Expr) : SourceFile :=
      { path := "lib.rs"
        items := [.record { name := "Q", attributes := notes } [], .record { name := "T" } [],
          .typeAlias "A" (.ofName "T") [],
          .function { name := "f", params := [⟨some "r", .bounded ["RouteBuilder"]⟩] }
            [.expr body]] }
    let status : Expr := .literal (.whole 404 "")
    let chained (type : String) :=
      service [] (.method register "produces" ⟨3, 30⟩ [.ofName type] [status])
    let noted (type : String) :=
      service [{ name := some "produces", arguments := [status, .path [type] []] }] register
    let schema (name : String) := "#/components/schemas/" ++ name
    generate (chained "T") = some (["Q", "R", "T"], [schema "R", schema "T"]) ∧
    generate (chained "A") = some (["Q", "R"], [schema "R", schema "A"]) ∧
    generate (noted "T") = some (["Q", "R", "T"], [schema "R", schema "T"]) ∧
    generate (noted "A") = some (["Q", "R"], [schema "R", schema "A"]) := by
  cbv

end RouteContract
