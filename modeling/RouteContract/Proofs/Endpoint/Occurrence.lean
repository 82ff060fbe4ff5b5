import RouteContract.Endpoint.Scan
import Mathlib.Data.List.Perm.Basic

/-!
The method calls that occur in code, read off the syntax: every call expression once, with the calls
that are chained behind it. Nothing here depends on the order in which the scan walks or on the
scope it keeps. The calls of one chain are then told apart from those in its arguments and in its
root, which is how the scan meets them.
-/

namespace RouteContract

open Source

/-- A method call where it occurs, with the calls that are chained behind it. -/
structure Occurrence where
  call : Call
  after : List Call

namespace Occurrence

mutual

/-- The method calls in an expression that `after` are chained behind. The arguments of a macro are
tokens and not expressions, so that no call occurs in them. -/
def ofExpr (after : List Call) : Expr → List Occurrence
  | .literal _ => []
  | .path _ inner => ofExprs inner
  | .call callee arguments => ofExpr [] callee ++ ofExprs arguments
  | .method receiver name pos types arguments =>
    let call : Call := ⟨receiver, name, pos, types, arguments⟩
    ⟨call, after⟩ :: (ofExpr (call :: after) receiver ++ ofExprs arguments)
  | .field base _ => ofExpr [] base
  | .reference e => ofExpr [] e
  | .paren e => ofExpr [] e
  | .array es => ofExprs es
  | .invocation _ _ => []
  | .closure _ parts => ofCodes parts
  | .operation left right => ofExpr [] left ++ ofCodes right
  | .marked notes e => ofExprs notes ++ ofExpr [] e
  | .unread => []
  | .other parts => ofCodes parts

def ofExprs : List Expr → List Occurrence
  | [] => []
  | e :: es => ofExpr [] e ++ ofExprs es

def ofOptionalExpr : Option Expr → List Occurrence
  | none => []
  | some e => ofExpr [] e

/-- The method calls in a statement or declaration. -/
def ofCode : Code → List Occurrence
  | .expr e => ofExpr [] e
  | .binding _ lead value otherwise => ofCodes lead ++ ofOptionalExpr value ++ ofCodes otherwise
  | .record _ parts => ofCodes parts
  | .choice _ parts => ofCodes parts
  | .typeAlias _ _ parts => ofCodes parts
  | .constant _ lead value => ofCodes lead ++ ofExpr [] value
  | .function _ parts => ofCodes parts
  | .imports _ parts => ofCodes parts
  | .module lead items => ofCodes lead ++ ofCodes items
  | .trait _ _ lead members => ofCodes lead ++ ofCodes members
  | .impl _ _ _ lead members => ofCodes lead ++ ofCodes members
  | .other parts => ofCodes parts

def ofCodes : List Code → List Occurrence
  | [] => []
  | c :: cs => ofCode c ++ ofCodes cs

end

/-- The method calls of a file. -/
def ofFile (f : SourceFile) : List Occurrence := ofCodes f.lead ++ ofCodes f.items

/-- The calls of a chain, each with those behind it. -/
def ofChain : List Call → List Occurrence
  | [] => []
  | call :: calls => ⟨call, calls⟩ :: ofChain calls

/-- The method calls in the arguments of a chain. -/
def ofChainArguments : Expr → List Occurrence
  | .method receiver _ _ _ arguments => ofChainArguments receiver ++ ofExprs arguments
  | _ => []

end Occurrence

namespace Source.Expr

/-- What a chain starts from. -/
def root : Expr → Expr
  | method receiver _ _ _ _ => receiver.root
  | e => e

end Source.Expr

namespace Occurrence

/-- The calls in an expression are those of its chain, those in the arguments of the chain and those
in its root. -/
theorem ofExpr_append_perm (e : Expr) (after : List Call) :
    (ofExpr after e ++ ofChain after).Perm
      (ofChain (e.chain ++ after) ++ ofChainArguments e ++ ofExpr [] e.root) := by
  cases e with
  | method receiver name pos types arguments =>
    let call : Call := ⟨receiver, name, pos, types, arguments⟩
    -- The call stands first behind the chain of its receiver.
    have hreceiver := ofExpr_append_perm receiver (call :: after)
    have hmoved : (ofExpr after (.method receiver name pos types arguments) ++ ofChain after).Perm
        (ofExpr (call :: after) receiver ++ ofChain (call :: after) ++ ofExprs arguments) := by
      simp only [ofExpr, ofChain, List.cons_append, List.append_assoc]
      refine .trans ?_ List.perm_middle.symm
      exact (List.perm_append_comm.append_left _).cons _
    refine hmoved.trans ((hreceiver.append_right _).trans ?_)
    simp only [Expr.chain, Expr.root, ofChainArguments, List.append_assoc, List.singleton_append]
    exact (List.perm_append_comm.append_left _).append_left _
  | _ =>
    refine List.perm_append_comm.trans ?_
    simp [Expr.chain, Expr.root, ofChainArguments, ofExpr]

theorem ofExpr_perm (e : Expr) :
    (ofExpr [] e).Perm (ofChain e.chain ++ ofChainArguments e ++ ofExpr [] e.root) := by
  simpa [ofChain] using ofExpr_append_perm e []

end Occurrence

/-- A call that registers an endpoint, with the calls that belong to it. -/
structure Registration where
  file : String
  call : Call
  verb : VerbSource
  tail : List Call

namespace Registration

def place (r : Registration) : Place := ⟨Files.components r.file, r.call.pos⟩

end Registration

/-- The registration at a site, apart from what is known where it stands. -/
def Site.registration (s : Site) : Registration := ⟨s.file, s.call, s.verb, s.tail⟩

namespace Occurrence

/-- The registration that a call is, if its name is that of a registering method. The calls up to
the next registration belong to it. -/
def registration? (file : String) (o : Occurrence) : Option Registration :=
  (verbSource? o.call.name).map fun verb =>
    ⟨file, o.call, verb, o.after.takeWhile fun c => (verbSource? c.name).isNone⟩

/-- The registrations of a file. -/
def registrations (f : SourceFile) : List Registration :=
  (ofFile f).filterMap (registration? f.path)

theorem map_registration_ofChain (file : String) (scope : Scope) (calls : List Call) :
    (Site.ofChain file scope calls).map Site.registration =
      (ofChain calls).filterMap (registration? file) := by
  induction calls with
  | nil => rfl
  | cons call calls ih =>
    cases hverb : verbSource? call.name with
    | none => simp [Site.ofChain, ofChain, registration?, hverb, ih]
    | some verb => simp [Site.ofChain, ofChain, registration?, hverb, ih, Site.registration]

variable {f : SourceFile} {r : Registration}

theorem place_file_of_mem_registrations (hr : r ∈ registrations f) :
    r.place.file = Files.components f.path := by
  obtain ⟨o, -, ho⟩ := List.mem_filterMap.mp hr
  obtain ⟨verb, -, rfl⟩ := Option.map_eq_some_iff.mp ho
  rfl

end Occurrence
end RouteContract
