import RouteContract.Proofs.Endpoint.Occurrence
import RouteContract.Source.Parse
import Mathlib.Data.List.Nodup

/-!
What the scan of a service finds. A walk through code meets every registration that occurs in the
code exactly once, whatever scope it has reached: one statement for each form of expression and of
declaration, carried along lists of them and along the files. Where no two calls stand in one place,
no endpoint is dropped as a repetition either.
-/

namespace RouteContract

open Source Occurrence

namespace Walk

/-- From `w` to `w'` the walk meets the registrations among `calls`, each of them once. -/
structure Meets (w w' : Walk) (calls : List Occurrence) : Prop where
  file : w'.file = w.file
  sites : ∃ new, w'.sites = w.sites ++ new ∧
    (new.map Site.registration).Perm (calls.filterMap (registration? w.file))

variable {w w' w'' : Walk} {calls more : List Occurrence}

namespace Meets

/-- A change of the scope or of the context meets nothing. -/
theorem of_eq (hfile : w'.file = w.file) (hsites : w'.sites = w.sites) : Meets w w' [] :=
  ⟨hfile, [], by simp [hsites], by simp⟩

theorem refl (w : Walk) : Meets w w [] := of_eq rfl rfl

theorem trans (hfirst : Meets w w' calls) (hthen : Meets w' w'' more) :
    Meets w w'' (calls ++ more) := by
  obtain ⟨hfile, new, hnew, hperm⟩ := hfirst
  obtain ⟨hfile', new', hnew', hperm'⟩ := hthen
  refine ⟨hfile'.trans hfile, new ++ new', ?_, ?_⟩
  · rw [hnew', hnew, List.append_assoc]
  · rw [hfile] at hperm'
    simpa only [List.map_append, List.filterMap_append] using hperm.append hperm'

theorem perm (hmeets : Meets w w' calls) (hcalls : calls.Perm more) : Meets w w' more := by
  obtain ⟨hfile, new, hnew, hperm⟩ := hmeets
  exact ⟨hfile, new, hnew, hperm.trans (hcalls.filterMap _)⟩

end Meets

theorem bindTyped_meets (w : Walk) (p : Pattern) : Meets w (w.bindTyped p) [] := by
  cases p <;> exact .of_eq rfl rfl

theorem foldl_bindTyped_meets (w : Walk) (params : List Pattern) :
    Meets w (params.foldl bindTyped w) [] := by
  induction params generalizing w with
  | nil => exact .refl w
  | cons p params ih => exact (bindTyped_meets w p).trans (ih _)

theorem bindLocal_meets (w : Walk) (p : Pattern) (value : Option Expr) :
    Meets w (w.bindLocal p value) [] := by
  unfold bindLocal
  split
  · exact .of_eq rfl rfl
  · split
    · exact .of_eq rfl rfl
    · exact .refl w
  · exact .refl w

theorem inFunction_meets {signature : Signature} {body : Walk → Walk}
    (hbody : ∀ u, Meets u (body u) calls) : Meets w (w.inFunction signature body) calls := by
  obtain ⟨hfile, hsites⟩ := hbody { w with scope := w.functionScope signature }
  exact ⟨hfile, hsites⟩

theorem inContext_meets {context : Option ImplContext} {body : Walk → Walk}
    (hbody : ∀ u, Meets u (body u) calls) : Meets w (w.inContext context body) calls := by
  obtain ⟨hfile, hsites⟩ := hbody { w with context }
  exact ⟨hfile, hsites⟩

theorem meetChain_meets (w : Walk) (e : Expr) : Meets w (w.meetChain e) (ofChain e.chain) :=
  ⟨rfl, _, rfl, .of_eq (map_registration_ofChain w.file w.scope e.chain)⟩

mutual

/-- Behind a chain that has been met, only the root is left of an expression. -/
theorem expr_meets (met : Bool) (w : Walk) (e : Expr) :
    Meets w (expr met w e) (ofExpr [] (if met then e.root else e)) := by
  cases e with
  | literal value => cases met <;> exact .refl w
  | path names inner => cases met <;> exact exprs_meets w inner
  | call callee arguments =>
    have hcall := (expr_meets false w callee).trans (exprs_meets _ arguments)
    cases met <;> exact hcall
  | method receiver name pos types arguments =>
    cases met with
    | true => exact expr_meets true w receiver
    | false =>
      let e := Expr.method receiver name pos types arguments
      have hchain := meetChain_meets w e
      have harguments := (chainArguments_meets (w.meetChain e) receiver).trans
        (exprs_meets _ arguments)
      have hroot := expr_meets true (exprs (chainArguments (w.meetChain e) receiver) arguments)
        receiver
      exact ((hchain.trans harguments).trans hroot).perm (ofExpr_perm e).symm
  | field base name => cases met <;> exact expr_meets false w base
  | reference target => cases met <;> exact expr_meets false w target
  | paren inner => cases met <;> exact expr_meets false w inner
  | array elements => cases met <;> exact exprs_meets w elements
  | invocation name arguments => cases met <;> exact .refl w
  | closure params parts =>
    have hclosure := (foldl_bindTyped_meets w params).trans (codes_meets false _ parts)
    cases met <;> exact hclosure
  | operation left right =>
    have hoperation := (expr_meets false w left).trans (codes_meets false _ right)
    cases met <;> exact hoperation
  | marked notes inner =>
    have hmarked := (exprs_meets w notes).trans (expr_meets false _ inner)
    cases met <;> exact hmarked
  | unread => cases met <;> exact .refl w
  | other parts => cases met <;> exact codes_meets false w parts

theorem chainArguments_meets (w : Walk) (e : Expr) :
    Meets w (chainArguments w e) (ofChainArguments e) := by
  cases e with
  | method receiver name pos types arguments =>
    exact (chainArguments_meets w receiver).trans (exprs_meets _ arguments)
  | _ => exact .refl w

theorem exprs_meets (w : Walk) (es : List Expr) : Meets w (exprs w es) (ofExprs es) := by
  cases es with
  | nil => exact .refl w
  | cons e es => exact (expr_meets false w e).trans (exprs_meets _ es)

theorem optionalExpr_meets (w : Walk) (e : Option Expr) :
    Meets w (optionalExpr w e) (ofOptionalExpr e) := by
  cases e with
  | none => exact .refl w
  | some e => exact expr_meets false w e

theorem code_meets (member : Bool) (w : Walk) (c : Code) :
    Meets w (code member w c) (ofCode c) := by
  cases c with
  | expr e => exact expr_meets false w e
  | binding p lead value otherwise =>
    have hlead := (bindLocal_meets w p value).trans (codes_meets false _ lead)
    exact (hlead.trans (optionalExpr_meets _ value)).trans (codes_meets false _ otherwise)
  | record decl parts => exact codes_meets false w parts
  | choice decl parts => exact codes_meets false w parts
  | typeAlias name target parts => exact codes_meets false w parts
  | constant name lead value => exact (codes_meets false w lead).trans (expr_meets false _ value)
  | function signature parts =>
    exact inContext_meets fun u => inFunction_meets fun v => codes_meets false v parts
  | imports pairs parts => exact codes_meets false w parts
  | module lead items => exact (codes_meets false w lead).trans (codes_meets false _ items)
  | trait name supers lead members =>
    exact (codes_meets false w lead).trans (codes_meets true _ members)
  | impl self bounds trait lead members =>
    exact inContext_meets fun u => (codes_meets false u lead).trans (codes_meets true _ members)
  | other parts => exact codes_meets false w parts

theorem codes_meets (member : Bool) (w : Walk) (cs : List Code) :
    Meets w (codes member w cs) (ofCodes cs) := by
  cases cs with
  | nil => exact .refl w
  | cons c cs => exact (code_meets member w c).trans (codes_meets member _ cs)

end

theorem sourceFile_meets (w : Walk) (f : SourceFile) :
    Meets { w with file := f.path } (w.sourceFile f) (ofFile f) :=
  (codes_meets false _ f.lead).trans (codes_meets false _ f.items)

theorem foldl_sourceFile (w : Walk) (files : List SourceFile) :
    ∃ groups, (files.foldl sourceFile w).sites = w.sites ++ groups.flatten ∧
      List.Forall₂ (fun f group => (group.map Site.registration).Perm (registrations f))
        files groups := by
  induction files generalizing w with
  | nil => exact ⟨[], by simp, .nil⟩
  | cons f files ih =>
    obtain ⟨-, group, hgroup, hperm⟩ := sourceFile_meets w f
    obtain ⟨groups, hgroups, hfiles⟩ := ih (w.sourceFile f)
    refine ⟨group :: groups, ?_, .cons hperm hfiles⟩
    rw [List.foldl_cons, hgroups, hgroup, List.flatten_cons, List.append_assoc]

end Walk

variable {files : List SourceFile}

theorem sites_perm (files : List SourceFile) :
    ((sites files).map Site.registration).Perm (files.flatMap registrations) := by
  obtain ⟨groups, hsites, hgroups⟩ := Walk.foldl_sourceFile { file := "" } files
  rw [sites, hsites, List.nil_append]
  clear hsites
  induction hgroups with
  | nil => exact .nil
  | cons hgroup hgroups ih =>
    simpa only [List.flatten_cons, List.map_append, List.flatMap_cons] using hgroup.append ih

theorem map_place_sublist (file : String) (calls : List Occurrence) :
    ((calls.filterMap (registration? file)).map Registration.place).Sublist
      (calls.map fun o => ⟨Files.components file, o.call.pos⟩) := by
  induction calls with
  | nil => exact .slnil
  | cons o calls ih =>
    cases hverb : verbSource? o.call.name with
    | none => simpa [registration?, hverb] using ih.cons _
    | some verb => simpa [registration?, hverb, Registration.place] using ih

theorem nodup_registrations {f : SourceFile}
    (hpositions : ((ofFile f).map (·.call.pos)).Nodup) :
    ((registrations f).map Registration.place).Nodup := by
  refine (map_place_sublist f.path (ofFile f)).nodup ?_
  have hplaces := hpositions.map (f := fun pos => (⟨Files.components f.path, pos⟩ : Place))
    fun pos pos' heq => congrArg Place.pos heq
  rwa [List.map_map] at hplaces

/-- Sites of different files and different calls of one file stand in different places. -/
theorem nodup_places
    (hpaths : files.Pairwise fun f g => Files.components f.path ≠ Files.components g.path)
    (hpositions : ∀ f ∈ files, ((ofFile f).map (·.call.pos)).Nodup) :
    ((sites files).map Site.place).Nodup := by
  have hperm := (sites_perm files).map Registration.place
  rw [List.map_map, List.map_flatMap] at hperm
  refine hperm.nodup_iff.mpr (List.nodup_flatMap.mpr ⟨?_, hpaths.imp ?_⟩)
  · intro f hf
    exact nodup_registrations (hpositions f hf)
  · intro f g hne place hf hg
    obtain ⟨r, hr, rfl⟩ := List.mem_map.mp hf
    obtain ⟨r', hr', heq⟩ := List.mem_map.mp hg
    apply hne
    rw [← place_file_of_mem_registrations hr, ← place_file_of_mem_registrations hr', heq]

/-- Where sites stand in different places, none of their endpoints is dropped as a repetition. -/
theorem distinctPlaces_of_nodup (index : Index) (found : List Site) (seen : List Place)
    (hnodup : (found.map Site.place).Nodup) (hfresh : ∀ s ∈ found, s.place ∉ seen) :
    (do let placed ← found.mapM fun s => do return (← s.endpoint? index).map (s.place, ·)
        return distinctPlaces seen (placed.filterMap id)) =
      (·.filterMap id) <$> found.mapM (Site.endpoint? index) := by
  induction found generalizing seen with
  | nil => rfl
  | cons s found ih =>
    obtain ⟨hs, hrest⟩ := List.nodup_cons.mp hnodup
    have hfound : ∀ t ∈ found, t.place ∉ seen := fun t ht => hfresh t (List.mem_cons_of_mem s ht)
    rw [List.mapM_cons, List.mapM_cons]
    cases hendpoint : s.endpoint? index with
    | error b => rfl
    | ok e =>
      -- The laws of binding are about `pure` and not about `ok`.
      have hpure {α : Type} (a : α) : (Except.ok a : Except Breakdown α) = pure a := rfl
      cases e with
      | none =>
        have hkept := ih seen hrest hfound
        simpa [hpure] using hkept
      | some e =>
        have hnew : s.place ∉ seen := hfresh s List.mem_cons_self
        have hkept := ih (s.place :: seen) hrest fun t ht => by
          have hne : t.place ≠ s.place := fun heq => hs (heq ▸ List.mem_map_of_mem ht)
          simpa [hne] using hfound t ht
        have hcons := congrArg (Functor.map (e :: ·)) hkept
        simpa [hpure, distinctPlaces, hnew] using hcons

/-- The scan of a service is complete and repeats nothing. The sites of every file are its
registrations, each of them once and with the calls that belong to it, one file after the other;
all sites stand in different places; and the endpoints are those of all sites in this order. -/
theorem endpoints_complete (index : Index) (files : List SourceFile)
    (hpaths : files.Pairwise fun f g => Files.components f.path ≠ Files.components g.path)
    (hpositions : ∀ f ∈ files, ((ofFile f).map (·.call.pos)).Nodup) :
    (∃ groups, sites files = groups.flatten ∧
      List.Forall₂ (fun f group => (group.map Site.registration).Perm (registrations f))
        files groups) ∧
    ((sites files).map Site.place).Nodup ∧
    endpoints index files = (·.filterMap id) <$> (sites files).mapM (Site.endpoint? index) := by
  have hnodup := nodup_places hpaths hpositions
  refine ⟨?_, hnodup, ?_⟩
  · obtain ⟨groups, hgroups, hfiles⟩ := Walk.foldl_sourceFile { file := "" } files
    exact ⟨groups, hgroups, hfiles⟩
  · exact distinctPlaces_of_nodup index (sites files) [] hnodup fun s _ => List.not_mem_nil

/-- Two registrations in one chain, and a third one in an argument of the first. -/
theorem endpoints_complete_chain :
    let types := [TypeExpr.ofName "Request", TypeExpr.ofName "Response"]
    let path (text : String) := Expr.literal (.text text)
    let handler := Expr.closure []
      [.expr (.method (.path ["inner"] []) "map_put" ⟨2, 30⟩ types [path "/v1/c"])]
    let first := Expr.method (.path ["routes"] []) "map_get" ⟨2, 9⟩ types [path "/v1/a", handler]
    let named := Expr.method first "with_name" ⟨3, 9⟩ [] [path "getA"]
    let chain := Expr.method named "map_post" ⟨4, 9⟩ types [path "/v1/b"]
    let file : SourceFile :=
      { path := "lib.rs", items := [.function { name := "f" } [.expr chain]] }
    (registrations file).map (fun r => (r.call.pos, r.tail.map (·.name))) =
      [(⟨4, 9⟩, []), (⟨2, 9⟩, ["with_name"]), (⟨2, 30⟩, [])] ∧
    ((sites [file]).map Site.registration).Perm (registrations file) ∧
    (endpoints (Index.ofFiles [file]) [file]).toOption.map (·.map (·.path)) =
      some ["/v1/a", "/v1/b", "/v1/c"] := by
  intro types path handler first named chain file
  obtain ⟨⟨groups, hsites, hgroups⟩, -, hendpoints⟩ :=
    endpoints_complete (Index.ofFiles [file]) [file] (by simp) (by decide)
  refine ⟨rfl, ?_, ?_⟩
  · rw [hsites]
    cases hgroups with
    | cons hgroup hnone =>
      cases hnone
      simpa using hgroup
  · rw [hendpoints]
    decide +kernel

/-- The scan also meets the calls in the value of an attribute and in the generic arguments of a
path; without these the texts register nothing. -/
theorem endpoints_of_attribute_value :
    let scan (text : String) := (parseFile? "lib.rs" text).map fun file =>
      (endpoints (Index.ofFiles [file]) [file]).toOption.map (·.map (·.path))
    scan "struct S;" = some (some []) ∧
    scan "#[note = r.map_get::<A, B>(\"/v1/a\", h)] struct S;" = some (some ["/v1/a"]) ∧
    scan "const C: u8 = g();" = some (some []) ∧
    scan "const C: u8 = g::<\x7br.map_get::<A, B>(\"/v1/a\", h)\x7d>();" =
      some (some ["/v1/a"]) := by
  intro scan
  refine ⟨?_, ?_, ?_, ?_⟩
  · decide +kernel
  · decide +kernel
  · decide +kernel
  · decide +kernel

end RouteContract
