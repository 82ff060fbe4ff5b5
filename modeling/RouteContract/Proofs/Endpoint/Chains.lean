import Mathlib.Data.List.TakeWhile
import RouteContract.Proofs.Endpoint.Scan
import RouteContract.Proofs.Except
import RouteContract.Proofs.Source.Translation

/-!
Chains of calls taken apart. A registration in a chain has the receiver of the whole chain for its
own and owns the calls up to the next registration, so the chain registers what its registrations
register one by one, each with its own calls directly on the root. Whether one of them comes to
nothing makes no difference to the others.

What is written in two places differs in more than the lines of its registrations: every call inside
it has moved. Registrations read a sketch of the code, in which no place occurs.
-/

namespace RouteContract

open Source

namespace Source

mutual

/-- What a registration can read of an expression: no places, and no code inside it. -/
def Expr.sketch : Expr → Expr
  | .literal value => .literal value
  | .path names _ => .path names []
  | .call callee arguments => .call callee.sketch (sketches arguments)
  | .method receiver name _ types arguments =>
    .method receiver.sketch name ⟨0, 0⟩ types (sketches arguments)
  | .field base name => .field base.sketch name
  | .reference e => .reference e.sketch
  | .paren e => .paren e.sketch
  | .array es => .array (sketches es)
  | .invocation name none => .invocation name none
  | .invocation name (some es) => .invocation name (some (sketches es))
  | .closure params _ => .closure params []
  | .operation left _ => .operation left.sketch []
  | .marked _ e => .marked [] e.sketch
  | .unread => .unread
  | .other _ => .other []

def sketches : List Expr → List Expr
  | [] => []
  | e :: es => e.sketch :: sketches es

end

def Call.sketch (call : Call) : Call :=
  ⟨call.receiver.sketch, call.name, ⟨0, 0⟩, call.types, call.arguments.map Expr.sketch⟩

@[simp] theorem sketches_eq_map (es : List Expr) : sketches es = es.map Expr.sketch := by
  induction es with
  | nil => rfl
  | cons e es ih => rw [sketches, ih, List.map_cons]

namespace Expr

theorem chain_sketch (e : Expr) : e.sketch.chain = e.chain.map Call.sketch := by
  cases e with
  | method receiver name pos types arguments =>
    simp only [sketch, chain, chain_sketch receiver, List.map_append, List.map_singleton,
      Call.sketch, sketches_eq_map]
  | invocation name arguments => cases arguments <;> rfl
  | _ => rfl

end Expr

namespace Index

variable (index : Index)

/-- What a registration reads of code and of its sketch is the same. Constants are not sketched. -/
theorem translates_sketch :
    index.Translates index fun e e' => e' = e.sketch ∨ e' = e := by
  have hlist (es : List Expr) :
      List.Forall₂ (fun e e' => e' = e.sketch ∨ e' = e) es (sketches es) := by
    rw [sketches_eq_map]
    exact forall₂_map_right_of fun _ => Or.inl rfl
  refine translates_of_map fun e => ?_
  cases e with
  | literal value => exact .literal value
  | path names inner =>
    refine .path ⟨rel_of_eq (SameName.refl index) _, ?_⟩
    exact rel_of_eq (fun e => show e = e.sketch ∨ e = e from Or.inr rfl) _
  | reference e => exact .reference (Or.inl rfl)
  | paren e => exact .paren (Or.inl rfl)
  | array es => exact .array (hlist es)
  | invocation name arguments =>
    cases arguments with
    | none => exact .unreadInvocation name
    | some es => exact .invocation name (hlist es)
  | marked notes e => exact .marked (Or.inl rfl)
  | _ => exact .mute rfl rfl

@[simp] theorem constant?_sketch (e : Expr) : index.constant? e.sketch = index.constant? e :=
  index.translates_sketch.constant? (Or.inl rfl)

theorem handlerTypes_sketch (arguments : List Expr) :
    index.handlerTypes (arguments.map Expr.sketch) = index.handlerTypes arguments :=
  index.translates_sketch.handlerTypes (forall₂_map_right_of fun _ => Or.inl rfl)

theorem receiverType?_sketch (scope : Scope) (e : Expr) :
    index.receiverType? scope e.sketch = index.receiverType? scope e := by
  cases e with
  | path names inner =>
    match names with
    | [] => rfl
    | [name] => rfl
    | _ :: _ :: _ => rfl
  | call callee arguments =>
    cases callee with
    | invocation name arguments => cases arguments <;> rfl
    | _ => rfl
  | method receiver name pos types arguments => exact receiverType?_sketch scope receiver
  | field base member =>
    have hbase := receiverType?_sketch scope base
    simp only [Expr.sketch, receiverType?, hbase]
  | reference e => exact receiverType?_sketch scope e
  | paren e => exact receiverType?_sketch scope e
  | marked notes e => exact receiverType?_sketch scope e
  | invocation name arguments => cases arguments <;> rfl
  | _ => rfl

end Index

end Source

/-- A call and its sketch make the same settings. -/
theorem Metadata.applyCall_sketch (index : Index) (m : Metadata) (call : Call) :
    applyCall index m call.sketch = applyCall index m call :=
  applyCall_of_translates index.translates_sketch rfl rfl
    (forall₂_map_right_of fun _ => Or.inl rfl)

/-- An endpoint without the line in which it is registered. -/
def Endpoint.unlined (e : Endpoint) : Endpoint := { e with line := 0 }

/-- Endpoints that have been found, without their lines. -/
def unlined (found : Except Breakdown (List Endpoint)) : Except Breakdown (List Endpoint) :=
  found.map (List.map Endpoint.unlined)

/-- Two calls of one name that have the same types and receivers of the same type, and arguments
with the same sketches. -/
structure Source.Call.Alike (index : Index) (scope : Scope) (c c' : Call) : Prop where
  name : c'.name = c.name
  types : c'.types = c.types
  arguments : c'.arguments.map Expr.sketch = c.arguments.map Expr.sketch
  receiver : index.receiverType? scope c'.receiver = index.receiverType? scope c.receiver

/-- Two sites whose calls are alike. -/
structure Site.Alike (index : Index) (s s' : Site) : Prop where
  file : s'.file = s.file
  scope : s'.scope = s.scope
  verb : s'.verb = s.verb
  call : s.call.Alike index s.scope s'.call
  tail : List.Forall₂ (Call.Alike index s.scope) s.tail s'.tail

section Alike

variable {index : Index} {scope : Scope} {file : String}

theorem Source.Call.alike_of_sketch {c c' : Call} (h : c'.sketch = c.sketch) :
    c.Alike index scope c' := by
  obtain ⟨receiver, name, pos, types, arguments⟩ := c
  obtain ⟨receiver', name', pos', types', arguments'⟩ := c'
  simp only [Call.sketch, Call.mk.injEq, true_and] at h
  obtain ⟨hreceiver, hname, htypes, harguments⟩ := h
  refine ⟨hname, htypes, harguments, ?_⟩
  have htype := index.receiverType?_sketch scope receiver'
  rw [hreceiver, index.receiverType?_sketch] at htype
  exact htype.symm

theorem Metadata.applyCall_of_alike {c c' : Call} (h : c.Alike index scope c') (m : Metadata) :
    applyCall index m c' = applyCall index m c := by
  rw [← applyCall_sketch index m c, ← applyCall_sketch index m c']
  simp only [applyCall, Call.sketch, namedArgument?, h.name, h.types, h.arguments]

theorem Metadata.ofCalls_of_alike {calls calls' : List Call}
    (h : List.Forall₂ (Call.Alike index scope) calls calls') :
    ofCalls index calls' = ofCalls index calls := by
  have hfold (m : Metadata) :
      calls'.foldl (applyCall index) m = calls.foldl (applyCall index) m := by
    induction h generalizing m with
    | nil => rfl
    | cons hcall _ ih => rw [List.foldl_cons, List.foldl_cons, applyCall_of_alike hcall, ih]
  exact hfold {}

namespace Site

variable {s s' : Site}

theorem Alike.typeArguments (h : s.Alike index s') :
    s'.typeArguments index = s.typeArguments index := by
  have hhandler : index.handlerTypes s'.call.arguments = index.handlerTypes s.call.arguments := by
    rw [← index.handlerTypes_sketch, h.call.arguments, index.handlerTypes_sketch]
  simp only [Site.typeArguments, Index.resolve, h.scope, h.call.receiver, h.call.types, hhandler]

theorem argumentVerb?_sketch (e : Expr) :
    argumentVerb? index e.sketch = argumentVerb? index e :=
  index.translates_sketch.argumentVerb? (Or.inl rfl)

theorem Alike.verbAndPath? (h : s.Alike index s') :
    (s'.verbAndPath? index).map (Prod.map id index.constant?) =
      (s.verbAndPath? index).map (Prod.map id index.constant?) := by
  have harguments := h.call.arguments
  have hconstant {e e' : Expr} (he : e'.sketch = e.sketch) :
      index.constant? e' = index.constant? e := by
    rw [← index.constant?_sketch, he, index.constant?_sketch]
  rw [Site.verbAndPath?, Site.verbAndPath?, h.verb]
  cases hold : s.call.arguments with
  | nil =>
    rw [hold, List.map_nil, List.map_eq_nil_iff] at harguments
    rw [harguments]
  | cons first more =>
    rw [hold, List.map_cons] at harguments
    obtain ⟨first', more', hnew, hfirst, hmore⟩ := List.map_eq_cons_iff.mp harguments
    rw [hnew]
    cases s.verb with
    | fixed verb => simp [hconstant hfirst]
    | argument =>
      have hverb : argumentVerb? index first' = argumentVerb? index first := by
        rw [← argumentVerb?_sketch, hfirst, argumentVerb?_sketch]
      cases more with
      | nil =>
        rw [List.map_nil, List.map_eq_nil_iff] at hmore
        rw [hmore]
      | cons path rest =>
        obtain ⟨path', rest', rfl, hpath, -⟩ := List.map_eq_cons_iff.mp hmore
        simp [hverb, hconstant hpath, Function.comp_def]

theorem Alike.endpointOf? (h : s.Alike index s') (types : List TypeExpr) :
    (s'.endpointOf? index types).map Endpoint.unlined =
      (s.endpointOf? index types).map Endpoint.unlined := by
  match types with
  | [] => rfl
  | [_] => rfl
  | request :: response :: _ =>
    have hmetadata (requestType : String) :
        Metadata.ofEndpoint index s'.tail requestType =
          Metadata.ofEndpoint index s.tail requestType := by
      rw [Metadata.ofEndpoint, Metadata.ofEndpoint, Metadata.ofCalls_of_alike h.tail]
    have hfound := h.verbAndPath?
    simp only [Site.endpointOf?, hmetadata, h.file]
    cases request.simpleName? with
    | none => rfl
    | some requestType =>
      cases response.simpleName? with
      | none => rfl
      | some responseType =>
        cases hnew : s'.verbAndPath? index with
        | none =>
          rw [hnew, Option.map_none, eq_comm, Option.map_eq_none_iff] at hfound
          rw [hfound]
          rfl
        | some new =>
          rw [hnew, Option.map_some, eq_comm, Option.map_eq_some_iff] at hfound
          obtain ⟨old, hold, hsame⟩ := hfound
          obtain ⟨hverb, hpath⟩ := Prod.mk.inj hsame
          simp only [id_eq] at hverb
          rw [hold]
          simp only [Option.bind_eq_bind, Option.bind_some, hverb, hpath]
          cases index.constant? new.2 <;> rfl

theorem Alike.endpoint? (h : s.Alike index s') :
    (s'.endpoint? index).map (Option.map Endpoint.unlined) =
      (s.endpoint? index).map (Option.map Endpoint.unlined) := by
  rw [Site.endpoint?, Site.endpoint?, h.typeArguments]
  cases s.typeArguments index with
  | error b => rfl
  | ok types => exact congrArg Except.ok (h.endpointOf? types)

/-- The endpoints of sites, in order. -/
def records (index : Index) (found : List Site) : Except Breakdown (List Endpoint) :=
  (·.filterMap id) <$> found.mapM (Site.endpoint? index)

theorem records_cons (index : Index) (s : Site) (found : List Site) :
    records index (s :: found) = do
      let e ← s.endpoint? index
      let es ← records index found
      return e.toList ++ es := by
  rw [records, List.mapM_cons, records]
  cases s.endpoint? index with
  | error b => rfl
  | ok e =>
    cases found.mapM (Site.endpoint? index) with
    | error b => rfl
    | ok es => cases e <;> rfl

theorem records_append (index : Index) (found more : List Site) :
    records index (found ++ more) = do
      let es ← records index found
      let es' ← records index more
      return es ++ es' := by
  induction found with
  | nil =>
    rw [List.nil_append]
    cases records index more <;> rfl
  | cons s found ih =>
    rw [List.cons_append, records_cons, records_cons, ih]
    cases s.endpoint? index with
    | error b => rfl
    | ok e =>
      cases records index found with
      | error b => rfl
      | ok es =>
        cases records index more with
        | error b => rfl
        | ok es' => exact congrArg Except.ok (List.append_assoc _ _ _).symm

theorem records_flatMap {α : Type} (index : Index) (sitesOf : α → List Site) (as : List α) :
    records index (as.flatMap sitesOf) =
      List.flatten <$> as.mapM fun a => records index (sitesOf a) := by
  induction as with
  | nil => rfl
  | cons a as ih =>
    rw [List.flatMap_cons, records_append, ih, List.mapM_cons]
    cases records index (sitesOf a) with
    | error b => rfl
    | ok es => cases as.mapM fun a => records index (sitesOf a) <;> rfl

theorem unlined_records_cons (index : Index) (s : Site) (found : List Site) :
    unlined (records index (s :: found)) = do
      let e ← (s.endpoint? index).map (Option.map Endpoint.unlined)
      let es ← unlined (records index found)
      return e.toList ++ es := by
  rw [records_cons]
  cases s.endpoint? index with
  | error b => rfl
  | ok e =>
    cases records index found with
    | error b => rfl
    | ok es => cases e <;> rfl

/-- Sites that are read alike register the same endpoints, up to their lines. -/
theorem records_of_alike {found found' : List Site}
    (h : List.Forall₂ (Alike index) found found') :
    unlined (records index found') = unlined (records index found) := by
  induction h with
  | nil => rfl
  | cons hsite _ ih => rw [unlined_records_cons, unlined_records_cons, hsite.endpoint?, ih]

/-- The calls that belong to a registration, of those behind it. -/
def ownCalls (calls : List Call) : List Call :=
  calls.takeWhile fun c => (verbSource? c.name).isNone

theorem ownCalls_of_alike {calls calls' : List Call}
    (h : List.Forall₂ (Call.Alike index scope) calls calls') :
    List.Forall₂ (Call.Alike index scope) (ownCalls calls) (ownCalls calls') := by
  induction h with
  | nil => exact .nil
  | cons hcall _ ih =>
    rw [ownCalls, ownCalls, List.takeWhile_cons, List.takeWhile_cons, hcall.name]
    split
    · exact .cons hcall ih
    · exact .nil

theorem ofChain_of_alike {calls calls' : List Call}
    (h : List.Forall₂ (Call.Alike index scope) calls calls') :
    List.Forall₂ (Alike index) (ofChain file scope calls) (ofChain file scope calls') := by
  induction h with
  | nil => exact .nil
  | @cons call call' calls calls' hcall hcalls ih =>
    rw [ofChain, ofChain, hcall.name]
    cases verbSource? call.name with
    | none => exact ih
    | some verb => exact .cons ⟨rfl, rfl, rfl, hcall, ownCalls_of_alike hcalls⟩ ih

/-- The registrations of a chain read nothing of it but its sketch. -/
theorem ofChain_of_sketch {e e' : Expr} (h : e'.sketch = e.sketch) :
    List.Forall₂ (Alike index) (ofChain file scope e.chain) (ofChain file scope e'.chain) := by
  refine ofChain_of_alike ?_
  have hchain : e.chain.map Call.sketch = e'.chain.map Call.sketch := by
    rw [← Expr.chain_sketch, ← Expr.chain_sketch, h]
  rw [← List.forall₂_eq_eq_eq, List.forall₂_map_left_iff, List.forall₂_map_right_iff] at hchain
  exact hchain.imp fun _ _ hcall => Call.alike_of_sketch hcall.symm

end Site

end Alike

/-- A method call without its receiver. -/
structure Link where
  name : String
  pos : Pos
  types : List TypeExpr
  arguments : List Expr

namespace Link

def call (receiver : Expr) (l : Link) : Call :=
  ⟨receiver, l.name, l.pos, l.types, l.arguments⟩

/-- The call as an expression. -/
def on (receiver : Expr) (l : Link) : Expr :=
  .method receiver l.name l.pos l.types l.arguments

/-- Whether the call registers an endpoint. -/
def registers (l : Link) : Bool := (verbSource? l.name).isSome

/-- The calls of a chain on a root. -/
def calls (root : Expr) : List Link → List Call
  | [] => []
  | l :: ls => l.call root :: calls (l.on root) ls

/-- Every registration of a chain with the calls behind it up to the next one. -/
def parts : List Link → List (List Link)
  | [] => []
  | l :: ls => if l.registers then (l :: ls.takeWhile (!·.registers)) :: parts ls else parts ls

end Link

/-- The calls chained on a root. -/
def Source.Expr.chained (root : Expr) (links : List Link) : Expr :=
  links.foldl Link.on root

namespace Link

variable {index : Index} {scope : Scope} {file : String} {root root' : Expr}

theorem chain_chained (root : Expr) (links : List Link) :
    (root.chained links).chain = root.chain ++ calls root links := by
  induction links generalizing root with
  | nil => exact (List.append_nil _).symm
  | cons l ls ih =>
    rw [Expr.chained, List.foldl_cons]
    exact (ih (l.on root)).trans (by simp [on, call, calls, Expr.chain])

theorem chain_of_root (hroot : root.call? = none) (links : List Link) :
    (root.chained links).chain = calls root links := by
  have hnone : root.chain = [] := by
    cases root with
    | method => cases hroot
    | _ => rfl
  rw [chain_chained, hnone, List.nil_append]

/-- Chains of the same calls are alike on roots of one type. -/
theorem calls_alike (links : List Link)
    (htype : index.receiverType? scope root' = index.receiverType? scope root) :
    List.Forall₂ (Call.Alike index scope) (calls root links) (calls root' links) := by
  induction links generalizing root root' with
  | nil => exact .nil
  | cons l ls ih => exact .cons ⟨rfl, rfl, rfl, htype⟩ (ih htype)

theorem ownCalls_calls (root : Expr) (links : List Link) :
    Site.ownCalls (calls root links) = calls root (links.takeWhile (!·.registers)) := by
  induction links generalizing root with
  | nil => rfl
  | cons l ls ih =>
    have hname : (verbSource? (l.call root).name).isNone = !l.registers := by
      rw [registers, ← Option.not_isSome]
      rfl
    rw [calls, Site.ownCalls, List.takeWhile_cons, List.takeWhile_cons, hname]
    split
    · exact congrArg _ (ih (l.on root))
    · rfl

theorem ofChain_of_none (root : Expr) {links : List Link} (h : ∀ l ∈ links, l.registers = false) :
    Site.ofChain file scope (calls root links) = [] := by
  induction links generalizing root with
  | nil => rfl
  | cons l ls ih =>
    have hverb : verbSource? (l.call root).name = none :=
      Option.isSome_eq_false_iff.mp (h l List.mem_cons_self) |> Option.isNone_iff_eq_none.mp
    rw [calls, Site.ofChain, hverb]
    exact ih _ fun m hm => h m (List.mem_cons_of_mem l hm)

theorem registers_of_mem_takeWhile {links : List Link} {l : Link}
    (h : l ∈ links.takeWhile (!·.registers)) : l.registers = false := by
  simpa using List.all_eq_true.mp List.all_takeWhile l h

/-- The registrations of a chain are those of its parts on a root of the same type. -/
theorem ofChain_parts (links : List Link)
    (htype : index.receiverType? scope root' = index.receiverType? scope root) :
    List.Forall₂ (Site.Alike index) (Site.ofChain file scope (calls root links))
      ((parts links).flatMap fun part => Site.ofChain file scope (calls root' part)) := by
  induction links generalizing root with
  | nil => exact .nil
  | cons l ls ih =>
    have hname : verbSource? (l.call root).name = verbSource? l.name := rfl
    have hrest := @ih (l.on root) htype
    rw [calls, Site.ofChain, hname, parts, registers]
    cases hverb : verbSource? l.name with
    | none => exact hrest
    | some verb =>
      -- The part of this registration has no other one, and the same calls behind it.
      let own := ls.takeWhile (!·.registers)
      have hsite : Site.ofChain file scope (calls root' (l :: own)) =
          [⟨file, scope, l.call root', verb, calls (l.on root') own⟩] := by
        have hnone : Site.ofChain file scope (calls (l.on root') own) = [] :=
          ofChain_of_none _ fun m hm => registers_of_mem_takeWhile hm
        have htail : Site.ownCalls (calls (l.on root') own) = calls (l.on root') own := by
          rw [ownCalls_calls, List.takeWhile_idem]
        have hname : verbSource? (l.call root').name = some verb := hverb
        rw [calls, Site.ofChain, hname, hnone]
        exact congrArg (fun tail => [Site.mk file scope (l.call root') verb tail]) htail
      rw [Option.isSome_some, if_pos rfl, List.flatMap_cons, hsite, List.singleton_append]
      refine .cons ⟨rfl, rfl, rfl, ⟨rfl, rfl, rfl, htype⟩, ?_⟩ hrest
      change List.Forall₂ _ (Site.ownCalls (calls (l.on root) ls)) _
      rw [ownCalls_calls]
      exact calls_alike own htype

/-- A part is a registration and calls that are none. -/
def IsPart (part : List Link) : Prop :=
  ∃ l own, part = l :: own ∧ l.registers ∧ ∀ m ∈ own, m.registers = false

theorem isPart_of_mem {links part : List Link} (h : part ∈ parts links) : IsPart part := by
  induction links with
  | nil => cases h
  | cons l ls ih =>
    rw [parts] at h
    split at h
    · next hverb =>
      rcases List.mem_cons.mp h with rfl | h
      · exact ⟨l, _, rfl, hverb, fun m hm => registers_of_mem_takeWhile hm⟩
      · exact ih h
    · exact ih h

/-- Nothing is lost but the calls before the first registration. -/
theorem flatten_parts (links : List Link) :
    links.takeWhile (!·.registers) ++ (parts links).flatten = links := by
  induction links with
  | nil => rfl
  | cons l ls ih =>
    rw [parts, List.takeWhile_cons]
    cases hverb : l.registers with
    | false => exact congrArg (l :: ·) ih
    | true => exact congrArg (l :: ·) ih

theorem parts_append {own : List Link} (hown : ∀ m ∈ own, m.registers = false)
    (links : List Link) : parts (own ++ links) = parts links := by
  induction own with
  | nil => rfl
  | cons m own ih =>
    rw [List.cons_append, parts, hown m List.mem_cons_self, if_neg Bool.false_ne_true]
    exact ih fun n hn => hown n (List.mem_cons_of_mem m hn)

/-- Parts that are put together are the parts of the whole. -/
theorem parts_flatten {blocks : List (List Link)} (h : ∀ part ∈ blocks, IsPart part) :
    parts blocks.flatten = blocks := by
  induction blocks with
  | nil => rfl
  | cons part blocks ih =>
    obtain ⟨⟨l, own, rfl, hverb, hown⟩, hrest⟩ := List.forall_mem_cons.mp h
    have hbehind : (own ++ blocks.flatten).takeWhile (!·.registers) = own := by
      have hstop : blocks.flatten.takeWhile (!·.registers) = [] := by
        cases blocks with
        | nil => rfl
        | cons next blocks =>
          obtain ⟨first, rest, rfl, hfirst, -⟩ := hrest next List.mem_cons_self
          rw [List.flatten_cons, List.cons_append, List.takeWhile_cons, hfirst]
          rfl
      rw [List.takeWhile_append_of_pos (by simpa using hown), hstop, List.append_nil]
    rw [List.flatten_cons, List.cons_append, parts, hverb, if_pos rfl, hbehind,
      parts_append hown, ih hrest]

end Link

/-- The endpoints that a chain registers, in order. -/
def chainRecords (index : Index) (file : String) (scope : Scope) (e : Expr) :
    Except Breakdown (List Endpoint) :=
  Site.records index (Site.ofChain file scope e.chain)

section Splitting

variable {index : Index} {file : String} {scope : Scope} {root : Expr}

/-- A chain registers what its parts register, each of them chained on the root. -/
theorem unlined_chainRecords (hroot : root.call? = none) (links : List Link) :
    unlined (chainRecords index file scope (root.chained links)) =
      unlined (List.flatten <$>
        (Link.parts links).mapM fun part => chainRecords index file scope (root.chained part)) := by
  have halike : List.Forall₂ (Site.Alike index) (Site.ofChain file scope (Link.calls root links))
      ((Link.parts links).flatMap fun part => Site.ofChain file scope (Link.calls root part)) :=
    Link.ofChain_parts links rfl
  simp only [chainRecords, Link.chain_of_root hroot, ← Site.records_flatMap]
  exact (Site.records_of_alike halike).symm

/-- Chains with the same sketches register the same endpoints. -/
theorem unlined_mapM_of_sketch {α : Type} {chainOf : α → Expr} {as : List α} {written : List Expr}
    (h : List.Forall₂ (fun a e => e.sketch = (chainOf a).sketch) as written) :
    unlined (List.flatten <$> written.mapM (chainRecords index file scope)) =
      unlined (List.flatten <$> as.mapM fun a => chainRecords index file scope (chainOf a)) := by
  have halike : List.Forall₂ (Site.Alike index)
      (as.flatMap fun a => Site.ofChain file scope (chainOf a).chain)
      (written.flatMap fun e => Site.ofChain file scope e.chain) := by
    induction h with
    | nil => exact .nil
    | cons hsketch _ ih =>
      rw [List.flatMap_cons, List.flatMap_cons]
      exact List.rel_append (Site.ofChain_of_sketch hsketch) ih
  have hmoved := Site.records_of_alike halike
  rw [Site.records_flatMap, Site.records_flatMap] at hmoved
  exact hmoved

/-- A chain is the same as its registrations one by one. For every chain on a root that is no call
itself, leave out the calls before the first registration, and write every registration with the
calls up to the next one anew, directly on the root and at any place: what all of them register, in
order and up to lines, is what the chain registers, and one of them breaks down if and only if the
chain does. A registration that comes to nothing can be left out together with its calls. Where the
registrations of the chain stand in places of their own, none is taken for a repetition. -/
theorem chainRecords_split (index : Index) (file : String) (scope : Scope) {root : Expr}
    (hroot : root.call? = none) (links : List Link) :
    (links.takeWhile (!·.registers) ++ (Link.parts links).flatten = links ∧
      ∀ part ∈ Link.parts links, Link.IsPart part) ∧
    (∀ written, List.Forall₂ (fun part e => e.sketch = (root.chained part).sketch)
        (Link.parts links) written →
      unlined (chainRecords index file scope (root.chained links)) =
        unlined (List.flatten <$> written.mapM (chainRecords index file scope))) ∧
    (∀ before part after, Link.parts links = before ++ part :: after →
      chainRecords index file scope (root.chained part) = .ok [] →
      unlined (chainRecords index file scope (root.chained links)) =
        unlined (chainRecords index file scope (root.chained (before ++ after).flatten))) ∧
    (∀ seen, let found := Site.ofChain file scope (root.chained links).chain
      (found.map Site.place).Nodup → (∀ s ∈ found, s.place ∉ seen) →
      (do let placed ← found.mapM fun s => do return (← s.endpoint? index).map (s.place, ·)
          return distinctPlaces seen (placed.filterMap id)) =
        chainRecords index file scope (root.chained links)) := by
  refine ⟨⟨Link.flatten_parts links, fun part => Link.isPart_of_mem⟩, ?_, ?_, ?_⟩
  · intro written hwritten
    rw [unlined_chainRecords hroot, unlined_mapM_of_sketch hwritten]
  · intro before part after hparts hnothing
    have hothers : Link.parts (before ++ after).flatten = before ++ after := by
      refine Link.parts_flatten fun other hother => ?_
      have hmem : other ∈ Link.parts links := by
        rw [hparts]
        exact ((List.sublist_cons_self part after).append_left before).subset hother
      exact Link.isPart_of_mem hmem
    rw [unlined_chainRecords hroot, unlined_chainRecords hroot, hothers, hparts]
    exact congrArg unlined (Except.flatten_mapM_of_nil
      (fun part => chainRecords index file scope (root.chained part)) hnothing before after)
  · intro seen found hnodup hfresh
    exact distinctPlaces_of_nodup index found seen hnodup hfresh

end Splitting

/-- A chain with a call before its registrations and a registration between two others that has no
path: written as two chains in other lines, without that one, it registers the same. -/
theorem chainRecords_split_items :
    let types := [TypeExpr.ofName "Query", TypeExpr.ofName "Item"]
    let text (s : String) := Expr.literal (.text s)
    let list (line : Nat) := Link.mk "map_get" ⟨line, 9⟩ types
      [text "/v1/items", .closure [] [.expr (.method (.path ["q"] []) "run" ⟨line, 40⟩ [] [])]]
    let named (line : Nat) := Link.mk "with_name" ⟨line, 9⟩ [] [text "listItems"]
    let add (line : Nat) := Link.mk "map_post" ⟨line, 9⟩ types [text "/v1/items"]
    let lost : Link := ⟨"map_put", ⟨5, 9⟩, types, []⟩
    let index := Index.ofFiles []
    let scope : Scope := { bindings := [("routes", .reference (.bounded ["RouteBuilder"]))] }
    let root := Expr.path ["routes"] []
    let chain := root.chained [⟨"layer", ⟨2, 9⟩, [], []⟩, list 3, named 4, lost, add 6]
    let found := chainRecords index "lib.rs" scope
    unlined (found chain) = unlined (List.flatten <$>
      [root.chained [list 12, named 13], root.chained [lost], root.chained [add 17]].mapM found) ∧
    unlined (found chain) = unlined (found (root.chained [list 3, named 4, add 6])) ∧
    (found chain).toOption.map (·.map fun e => (e.verb, e.operationId, e.line)) =
      some [(.get, some "listItems", 3), (.post, none, 6)] := by
  intro types text list named add lost index scope root chain found
  obtain ⟨-, hwritten, hleft, -⟩ := chainRecords_split index "lib.rs" scope
    (show root.call? = none from rfl) [⟨"layer", ⟨2, 9⟩, [], []⟩, list 3, named 4, lost, add 6]
  have hsame : List.Forall₂ (fun part e => e.sketch = (root.chained part).sketch)
      [[list 3, named 4], [lost], [add 6]]
      [root.chained [list 12, named 13], root.chained [lost], root.chained [add 17]] :=
    .cons rfl (.cons rfl (.cons rfl .nil))
  refine ⟨hwritten _ hsame, ?_, by decide +kernel⟩
  exact hleft [[list 3, named 4]] [lost] [[add 6]] rfl (by rfl)

end RouteContract
