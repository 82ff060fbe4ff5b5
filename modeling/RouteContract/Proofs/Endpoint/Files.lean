import RouteContract.Proofs.Endpoint.Scan
import RouteContract.Proofs.Except

/-!
Files are scanned independently. The walk through code is told apart into the steps that it takes,
and these steps are run on a stack of scopes with the contexts that are still to be restored: the
scan as a machine that goes through all files with one state. The walk is this machine, so that
whatever a file holds, the machine leaves it with the one scope that it came with. Only the bindings
outside of functions stay in that scope, and where a file makes none, the files behind it are
scanned as if they stood alone.
-/

namespace RouteContract

open Source

namespace Walk

/-- A step of the walk through code. -/
inductive Event where
  /-- A variable whose type is known is bound. -/
  | bind (name : String) (t : TypeExpr)
  /-- A chain of calls is met. -/
  | chain (calls : List Call)
  /-- A function is entered. -/
  | enter (signature : Signature)
  | leave
  /-- The implementation around the code changes. -/
  | surround (context : Option ImplContext)
  | restore

namespace Event

def ofPattern : Pattern → List Event
  | .typed name t => [.bind name t]
  | _ => []

def ofBinding (p : Pattern) (value : Option Expr) : List Event :=
  match p, value.map Expr.bare with
  | .typed name t, _ => [.bind name t]
  | .name name, some (.call (.path names _) _) => ((ownerType? names).map (.bind name ·)).toList
  | _, _ => []

mutual

/-- The steps through an expression. The flag tells that its chain has been met. -/
def ofExpr (met : Bool) : Expr → List Event
  | .literal _ => []
  | .path _ inner => ofExprs inner
  | .call callee arguments => ofExpr false callee ++ ofExprs arguments
  | .method receiver name pos types arguments =>
    if met then ofExpr true receiver
    else
      .chain (Expr.method receiver name pos types arguments).chain ::
        (ofArguments receiver ++ ofExprs arguments ++ ofExpr true receiver)
  | .field base _ => ofExpr false base
  | .reference e => ofExpr false e
  | .paren e => ofExpr false e
  | .array es => ofExprs es
  | .invocation _ _ => []
  | .closure params parts => params.flatMap ofPattern ++ ofCodes false parts
  | .operation left right => ofExpr false left ++ ofCodes false right
  | .marked notes e => ofExprs notes ++ ofExpr false e
  | .unread => []
  | .other parts => ofCodes false parts

/-- The steps through the arguments of a chain. -/
def ofArguments : Expr → List Event
  | .method receiver _ _ _ arguments => ofArguments receiver ++ ofExprs arguments
  | _ => []

def ofExprs : List Expr → List Event
  | [] => []
  | e :: es => ofExpr false e ++ ofExprs es

def ofOptionalExpr : Option Expr → List Event
  | none => []
  | some e => ofExpr false e

/-- The steps through a statement or declaration. A function stands between `enter` and `leave`;
unless it is a member, it also leaves the implementation around it. -/
def ofCode (member : Bool) : Code → List Event
  | .expr e => ofExpr false e
  | .binding p lead value otherwise =>
    ofBinding p value ++ ofCodes false lead ++ ofOptionalExpr value ++ ofCodes false otherwise
  | .record _ parts => ofCodes false parts
  | .choice _ parts => ofCodes false parts
  | .typeAlias _ _ parts => ofCodes false parts
  | .constant _ lead value => ofCodes false lead ++ ofExpr false value
  | .function signature parts =>
    let inside := .enter signature :: (ofCodes false parts ++ [.leave])
    if member then inside else .surround none :: (inside ++ [.restore])
  | .imports _ parts => ofCodes false parts
  | .module lead items => ofCodes false lead ++ ofCodes false items
  | .trait _ _ lead members => ofCodes false lead ++ ofCodes true members
  | .impl self bounds _ lead members =>
    .surround (self.map (⟨·, bounds⟩)) ::
      (ofCodes false lead ++ ofCodes true members ++ [.restore])
  | .other parts => ofCodes false parts

def ofCodes (member : Bool) : List Code → List Event
  | [] => []
  | c :: cs => ofCode member c ++ ofCodes member cs

end

def ofFile (f : SourceFile) : List Event := ofCodes false f.lead ++ ofCodes false f.items

/-- The bindings that are made while no function is open, if `depth` functions are open at first. -/
def outer (depth : Nat) : List Event → List (String × TypeExpr)
  | [] => []
  | .bind name t :: events =>
    if depth = 0 then (name, t) :: outer depth events else outer depth events
  | .enter _ :: events => outer (depth + 1) events
  | .leave :: events => outer (depth - 1) events
  | .chain _ :: events => outer depth events
  | .surround _ :: events => outer depth events
  | .restore :: events => outer depth events

end Event
end Walk

/-- The variables of known type that a file binds outside of functions: by a `let` with a type or
with the call of a constructor, or as parameters of closures. -/
def Source.SourceFile.outerBindings (f : SourceFile) : List (String × TypeExpr) :=
  Walk.Event.outer 0 (Walk.Event.ofFile f)

/-- The state in which all files are scanned: the scopes of the open functions above that of the
files, the innermost first, and the contexts that are to be restored. -/
structure Frames where
  file : String
  scopes : List Scope := [{}]
  context : Option ImplContext := none
  saved : List (Option ImplContext) := []
  sites : List Site := []

namespace Frames

def scope (s : Frames) : Scope := s.scopes.headD {}

/-- The scope of a function that is entered. -/
def functionScope (s : Frames) (signature : Signature) : Scope :=
  Walk.functionScope { file := s.file, context := s.context } signature

/-- One step of the scan. The scope of the files is never taken off. -/
def step (s : Frames) : Walk.Event → Frames
  | .bind name t => { s with scopes := s.scopes.modifyHead (·.bind name t) }
  | .chain calls => { s with sites := s.sites ++ Site.ofChain s.file s.scope calls }
  | .enter signature => { s with scopes := s.functionScope signature :: s.scopes }
  | .leave => { s with scopes := if s.scopes.length > 1 then s.scopes.tail else s.scopes }
  | .surround context => { s with context, saved := s.context :: s.saved }
  | .restore => { s with context := s.saved.headD none, saved := s.saved.tail }

def run (s : Frames) (events : List Walk.Event) : Frames := events.foldl step s

def sourceFile (s : Frames) (f : SourceFile) : Frames :=
  { s with file := f.path }.run (Walk.Event.ofFile f)

/-- The state after all files. -/
def ofFiles (files : List SourceFile) : Frames := files.foldl sourceFile { file := "" }

theorem run_cons (s : Frames) (event : Walk.Event) (events : List Walk.Event) :
    s.run (event :: events) = (s.step event).run events :=
  rfl

theorem run_append (s : Frames) (events more : List Walk.Event) :
    s.run (events ++ more) = (s.run events).run more :=
  List.foldl_append

end Frames

namespace Walk

/-- The state of the machine when the walk has come to `w` in a function that is open above
`outer`. -/
def atop (w : Walk) (outer : List Scope) (saved : List (Option ImplContext)) : Frames :=
  ⟨w.file, w.scope :: outer, w.context, saved, w.sites⟩

/-- From `w` to `w'` the walk takes the steps `events`, whatever is below it. -/
structure Performs (w w' : Walk) (events : List Event) : Prop where
  context : w'.context = w.context
  run : ∀ outer saved, (w.atop outer saved).run events = w'.atop outer saved

variable {w w' w'' : Walk} {events more : List Event}

namespace Performs

theorem refl (w : Walk) : Performs w w [] := ⟨rfl, fun _ _ => rfl⟩

theorem trans (hfirst : Performs w w' events) (hthen : Performs w' w'' more) :
    Performs w w'' (events ++ more) := by
  refine ⟨hthen.context.trans hfirst.context, fun outer saved => ?_⟩
  rw [Frames.run_append, hfirst.run, hthen.run]

end Performs

theorem bind_performs (w : Walk) (name : String) (t : TypeExpr) :
    Performs w (w.bind name t) [.bind name t] :=
  ⟨rfl, fun _ _ => rfl⟩

theorem bindTyped_performs (w : Walk) (p : Pattern) :
    Performs w (w.bindTyped p) (Event.ofPattern p) := by
  cases p with
  | typed name t => exact bind_performs w name t
  | _ => exact .refl w

theorem foldl_bindTyped_performs (w : Walk) (params : List Pattern) :
    Performs w (params.foldl bindTyped w) (params.flatMap Event.ofPattern) := by
  induction params generalizing w with
  | nil => exact .refl w
  | cons p params ih =>
    rw [List.flatMap_cons]
    exact (bindTyped_performs w p).trans (ih _)

theorem bindLocal_performs (w : Walk) (p : Pattern) (value : Option Expr) :
    Performs w (w.bindLocal p value) (Event.ofBinding p value) := by
  unfold bindLocal Event.ofBinding
  cases p with
  | typed name t => exact bind_performs w name t
  | name name =>
    cases value.map Expr.bare with
    | none => exact .refl w
    | some e =>
      cases e with
      | call callee arguments =>
        cases callee with
        | path names inner =>
          dsimp only
          cases ownerType? names with
          | none => exact .refl w
          | some t => exact bind_performs w name t
        | _ => exact .refl w
      | _ => exact .refl w
  | _ => exact .refl w

/-- The scope that a function opens is taken off again at its end. -/
theorem inFunction_performs {signature : Signature} {body : Walk → Walk}
    (hbody : ∀ u, Performs u (body u) events) :
    Performs w (w.inFunction signature body) (.enter signature :: (events ++ [.leave])) := by
  have hinside := hbody { w with scope := w.functionScope signature }
  refine ⟨hinside.context, fun outer saved => ?_⟩
  have hrun := hinside.run (w.scope :: outer) saved
  have hentered : (w.atop outer saved).step (.enter signature) =
      Walk.atop { w with scope := w.functionScope signature } (w.scope :: outer) saved := rfl
  rw [Frames.run_cons, hentered, Frames.run_append, hrun]
  simp [Frames.run, Frames.step, atop, inFunction]

theorem inContext_performs {context : Option ImplContext} {body : Walk → Walk}
    (hbody : ∀ u, Performs u (body u) events) :
    Performs w (w.inContext context body) (.surround context :: (events ++ [.restore])) := by
  refine ⟨rfl, fun outer saved => ?_⟩
  have hrun := (hbody { w with context }).run outer (w.context :: saved)
  have hentered : (w.atop outer saved).step (.surround context) =
      Walk.atop { w with context } outer (w.context :: saved) := rfl
  rw [Frames.run_cons, hentered, Frames.run_append, hrun]
  rfl

/-- A function that is a member stays in the context that it is in. -/
theorem inContext_self_performs {body : Walk → Walk} (hbody : ∀ u, Performs u (body u) events) :
    Performs w (w.inContext w.context body) events := by
  have hinside := hbody w
  refine ⟨rfl, fun outer saved => ?_⟩
  have hcontext : w.inContext w.context body = body w := by
    change { body w with context := w.context } = body w
    rw [← hinside.context]
  rw [hcontext, hinside.run]

theorem meetChain_performs (w : Walk) (e : Expr) :
    Performs w (w.meetChain e) [.chain e.chain] :=
  ⟨rfl, fun _ _ => rfl⟩

mutual

theorem expr_performs (met : Bool) (w : Walk) (e : Expr) :
    Performs w (expr met w e) (Event.ofExpr met e) := by
  cases e with
  | literal value => exact .refl w
  | path names inner => exact exprs_performs w inner
  | call callee arguments =>
    exact (expr_performs false w callee).trans (exprs_performs _ arguments)
  | method receiver name pos types arguments =>
    cases met with
    | true => exact expr_performs true w receiver
    | false =>
      let e := Expr.method receiver name pos types arguments
      have hchain := meetChain_performs w e
      have harguments := (chainArguments_performs (w.meetChain e) receiver).trans
        (exprs_performs _ arguments)
      have hroot := expr_performs true (exprs (chainArguments (w.meetChain e) receiver) arguments)
        receiver
      exact hchain.trans (harguments.trans hroot)
  | field base name => exact expr_performs false w base
  | reference target => exact expr_performs false w target
  | paren inner => exact expr_performs false w inner
  | array elements => exact exprs_performs w elements
  | invocation name arguments => exact .refl w
  | closure params parts =>
    exact (foldl_bindTyped_performs w params).trans (codes_performs false _ parts)
  | operation left right =>
    exact (expr_performs false w left).trans (codes_performs false _ right)
  | marked notes inner => exact (exprs_performs w notes).trans (expr_performs false _ inner)
  | unread => exact .refl w
  | other parts => exact codes_performs false w parts

theorem chainArguments_performs (w : Walk) (e : Expr) :
    Performs w (chainArguments w e) (Event.ofArguments e) := by
  cases e with
  | method receiver name pos types arguments =>
    exact (chainArguments_performs w receiver).trans (exprs_performs _ arguments)
  | _ => exact .refl w

theorem exprs_performs (w : Walk) (es : List Expr) :
    Performs w (exprs w es) (Event.ofExprs es) := by
  cases es with
  | nil => exact .refl w
  | cons e es => exact (expr_performs false w e).trans (exprs_performs _ es)

theorem optionalExpr_performs (w : Walk) (e : Option Expr) :
    Performs w (optionalExpr w e) (Event.ofOptionalExpr e) := by
  cases e with
  | none => exact .refl w
  | some e => exact expr_performs false w e

theorem code_performs (member : Bool) (w : Walk) (c : Code) :
    Performs w (code member w c) (Event.ofCode member c) := by
  cases c with
  | expr e => exact expr_performs false w e
  | binding p lead value otherwise =>
    have hlead := (bindLocal_performs w p value).trans (codes_performs false _ lead)
    exact (hlead.trans (optionalExpr_performs _ value)).trans (codes_performs false _ otherwise)
  | record decl parts => exact codes_performs false w parts
  | choice decl parts => exact codes_performs false w parts
  | typeAlias name target parts => exact codes_performs false w parts
  | constant name lead value =>
    exact (codes_performs false w lead).trans (expr_performs false _ value)
  | function signature parts =>
    have hfunction (u : Walk) : Performs u (u.inFunction signature fun v => codes false v parts)
        (.enter signature :: (Event.ofCodes false parts ++ [.leave])) :=
      inFunction_performs fun v => codes_performs false v parts
    cases member with
    | true => exact inContext_self_performs hfunction
    | false => exact inContext_performs hfunction
  | imports pairs parts => exact codes_performs false w parts
  | module lead items => exact (codes_performs false w lead).trans (codes_performs false _ items)
  | trait name supers lead members =>
    exact (codes_performs false w lead).trans (codes_performs true _ members)
  | impl self bounds trait lead members =>
    exact inContext_performs fun u =>
      (codes_performs false u lead).trans (codes_performs true _ members)
  | other parts => exact codes_performs false w parts

theorem codes_performs (member : Bool) (w : Walk) (cs : List Code) :
    Performs w (codes member w cs) (Event.ofCodes member cs) := by
  cases cs with
  | nil => exact .refl w
  | cons c cs => exact (code_performs member w c).trans (codes_performs member _ cs)

end

theorem sourceFile_performs (w : Walk) (f : SourceFile) :
    Performs { w with file := f.path } (w.sourceFile f) (Event.ofFile f) :=
  (codes_performs false _ f.lead).trans (codes_performs false _ f.items)

end Walk

namespace Frames

theorem sourceFile_atop (w : Walk) (f : SourceFile) (outer : List Scope)
    (saved : List (Option ImplContext)) :
    (w.atop outer saved).sourceFile f = (w.sourceFile f).atop outer saved :=
  (Walk.sourceFile_performs w f).run outer saved

theorem foldl_sourceFile_atop (w : Walk) (files : List SourceFile) (outer : List Scope)
    (saved : List (Option ImplContext)) :
    files.foldl sourceFile (w.atop outer saved) =
      (files.foldl Walk.sourceFile w).atop outer saved := by
  induction files generalizing w with
  | nil => rfl
  | cons f files ih => rw [List.foldl_cons, List.foldl_cons, sourceFile_atop, ih]

theorem ofFiles_eq_atop (files : List SourceFile) :
    ofFiles files = (files.foldl Walk.sourceFile { file := "" }).atop [] [] :=
  foldl_sourceFile_atop { file := "" } files [] []

/-- At the bottom of the stack, the scope of the files gains what is bound outside of functions. -/
theorem run_scopes (s : Frames) (events : List Walk.Event) (inner : List Scope) (root : Scope)
    (hscopes : s.scopes = inner ++ [root]) :
    ∃ inner', (s.run events).scopes = inner' ++ [{ root with
      bindings := (Walk.Event.outer inner.length events).reverse ++ root.bindings }] := by
  -- As many functions are open as there are scopes above that of the files.
  induction events generalizing s inner root with
  | nil => exact ⟨inner, hscopes⟩
  | cons event events ih =>
    cases event with
    | bind name t =>
      cases inner with
      | nil =>
        obtain ⟨inner', hrun⟩ := ih (s.step (.bind name t)) [] (root.bind name t)
          (by simp [step, hscopes])
        refine ⟨inner', hrun.trans ?_⟩
        simp [Walk.Event.outer, Scope.bind]
      | cons scope inner =>
        exact ih (s.step (.bind name t)) (scope.bind name t :: inner) root (by simp [step, hscopes])
    | enter signature =>
      exact ih (s.step (.enter signature)) (s.functionScope signature :: inner) root
        (by simp [step, hscopes])
    | leave =>
      cases inner with
      | nil => exact ih (s.step .leave) [] root (by simp [step, hscopes])
      | cons scope inner => exact ih (s.step .leave) inner root (by simp [step, hscopes])
    | chain calls => exact ih (s.step (.chain calls)) inner root hscopes
    | surround context => exact ih (s.step (.surround context)) inner root hscopes
    | restore => exact ih (s.step .restore) inner root hscopes

end Frames

namespace Walk

variable {w w' : Walk} {events : List Event}

/-- The steps leave the scope that they came with, with the bindings outside of functions added. -/
theorem Performs.scope (hperforms : Performs w w' events) :
    w'.scope = { w.scope with bindings := (Event.outer 0 events).reverse ++ w.scope.bindings } := by
  obtain ⟨inner, hscopes⟩ := Frames.run_scopes (w.atop [] []) events [] w.scope rfl
  rw [hperforms.run] at hscopes
  -- The walk keeps one scope, so that nothing is left above that of the files.
  have hone : [] ++ [w'.scope] = inner ++ [_] := hscopes
  exact List.head_eq_of_cons_eq (List.append_inj_right' hone rfl)

namespace Event

/-- Nothing in a function counts as bound outside of functions. -/
theorem outer_ofCode_function (member : Bool) (signature : Signature) (parts : List Code) :
    outer 0 (ofCode member (.function signature parts)) = [] := by
  have hperforms := code_performs member { file := "" } (.function signature parts)
  have hscope : (code member { file := "" } (.function signature parts)).scope = {} := rfl
  have hbindings := congrArg Scope.bindings (hscope.symm.trans hperforms.scope)
  simpa using hbindings

theorem outer_ofCodes_cons (member : Bool) (c : Code) (cs : List Code) :
    outer 0 (ofCodes member (c :: cs)) =
      outer 0 (ofCode member c) ++ outer 0 (ofCodes member cs) := by
  have hfirst := code_performs member { file := "" } c
  have hrest := codes_performs member (code member { file := "" } c) cs
  have hall := codes_performs member { file := "" } (c :: cs)
  have hscopes := hrest.scope
  rw [hfirst.scope] at hscopes
  have hbindings := congrArg Scope.bindings (hscopes.symm.trans hall.scope)
  simpa using hbindings.symm

theorem outer_ofCodes_of_functions (member : Bool) {cs : List Code}
    (hfunctions : ∀ c ∈ cs, ∃ signature parts, c = .function signature parts) :
    outer 0 (ofCodes member cs) = [] := by
  induction cs with
  | nil => rfl
  | cons c cs ih =>
    obtain ⟨⟨signature, parts, rfl⟩, hrest⟩ := List.forall_mem_cons.mp hfunctions
    rw [outer_ofCodes_cons, outer_ofCode_function, ih hrest, List.append_nil]

end Event

/-- A file of functions binds nothing outside of them, whatever they hold. -/
theorem outerBindings_of_functions {f : SourceFile} (hlead : f.lead = [])
    (hfunctions : ∀ c ∈ f.items, ∃ signature parts, c = .function signature parts) :
    f.outerBindings = [] := by
  rw [SourceFile.outerBindings, Event.ofFile, hlead]
  exact Event.outer_ofCodes_of_functions false hfunctions

/-- Files leave the scope that they came with, with their bindings added, and the same context. -/
theorem foldl_sourceFile_scope (w : Walk) (files : List SourceFile) :
    (files.foldl sourceFile w).scope = { w.scope with
        bindings := (files.flatMap SourceFile.outerBindings).reverse ++ w.scope.bindings } ∧
      (files.foldl sourceFile w).context = w.context := by
  induction files generalizing w with
  | nil => exact ⟨rfl, rfl⟩
  | cons f files ih =>
    have hfile := sourceFile_performs w f
    obtain ⟨hscopes, hcontexts⟩ := ih (w.sourceFile f)
    refine ⟨hscopes.trans ?_, hcontexts.trans hfile.context⟩
    simp [hfile.scope, SourceFile.outerBindings]

end Walk

namespace Frames

/-- Whatever the files hold, the machine is back at its one scope and in no implementation. -/
theorem ofFiles_eq (files : List SourceFile) :
    ∃ file, ofFiles files = {
      file
      scopes := [{ bindings := (files.flatMap SourceFile.outerBindings).reverse }]
      context := none
      saved := []
      sites := RouteContract.sites files } := by
  obtain ⟨hscope, hcontext⟩ := Walk.foldl_sourceFile_scope { file := "" } files
  refine ⟨(files.foldl Walk.sourceFile { file := "" }).file, ?_⟩
  rw [ofFiles_eq_atop, Walk.atop, hscope, hcontext, List.append_nil]
  rfl

/-- The state with sites that were met before. -/
def behind (s : Frames) (before : List Site) : Frames := { s with sites := before ++ s.sites }

theorem step_behind (s : Frames) (before : List Site) (event : Walk.Event) :
    (s.behind before).step event = (s.step event).behind before := by
  cases event with
  | chain calls =>
    simp only [step, behind, List.append_assoc]
    rfl
  | _ => rfl

theorem run_behind (s : Frames) (before : List Site) (events : List Walk.Event) :
    (s.behind before).run events = (s.run events).behind before := by
  induction events generalizing s with
  | nil => rfl
  | cons event events ih =>
    rw [run_cons, run_cons, step_behind, ih]

theorem foldl_sourceFile_behind (s : Frames) (before : List Site) (files : List SourceFile) :
    files.foldl sourceFile (s.behind before) = (files.foldl sourceFile s).behind before := by
  induction files generalizing s with
  | nil => rfl
  | cons f files ih =>
    have hfile : (s.behind before).sourceFile f = (s.sourceFile f).behind before :=
      run_behind { s with file := f.path } before (Walk.Event.ofFile f)
    rw [List.foldl_cons, hfile, ih, List.foldl_cons]

end Frames

variable {fs gs : List SourceFile}

/-- Behind files that bind nothing outside of functions, the sites of other files are what they are
for these files alone. -/
theorem sites_append (hbinds : ∀ f ∈ fs, f.outerBindings = []) :
    sites (fs ++ gs) = sites fs ++ sites gs := by
  cases gs with
  | nil => simp [sites]
  | cons g gs =>
    obtain ⟨file, hstate⟩ := Frames.ofFiles_eq fs
    rw [List.flatMap_eq_nil_iff.mpr hbinds] at hstate
    have hfirst : (Frames.ofFiles fs).sourceFile g =
        (Frames.behind { file := "" } (sites fs)).sourceFile g := by
      rw [hstate]
      simp [Frames.sourceFile, Frames.behind]
    have hsites (files : List SourceFile) : (Frames.ofFiles files).sites = sites files := by
      rw [Frames.ofFiles_eq_atop]
      rfl
    rw [← hsites, Frames.ofFiles, List.foldl_append, ← Frames.ofFiles, List.foldl_cons, hfirst,
      ← List.foldl_cons, Frames.foldl_sourceFile_behind, ← Frames.ofFiles, Frames.behind, hsites]

/-- The places of sites are in the files that are scanned. -/
theorem exists_file_of_mem_sites {files : List SourceFile} {s : Site} (hs : s ∈ sites files) :
    ∃ f ∈ files, s.place.file = Files.components f.path := by
  have hregistration := (sites_perm files).subset (List.mem_map_of_mem hs)
  obtain ⟨f, hf, hmem⟩ := List.mem_flatMap.mp hregistration
  have hplace : s.registration.place.file = Files.components f.path :=
    Occurrence.place_file_of_mem_registrations hmem
  exact ⟨f, hf, hplace⟩

/-- Whether an endpoint is kept depends only on the endpoints in the same place. -/
theorem distinctPlaces_congr {seen seen' : List Place} {found : List (Place × Endpoint)}
    (hseen : ∀ p ∈ found, p.1 ∈ seen ↔ p.1 ∈ seen') :
    distinctPlaces seen found = distinctPlaces seen' found := by
  induction found generalizing seen seen' with
  | nil => rfl
  | cons p found ih =>
    obtain ⟨hp, hfound⟩ := List.forall_mem_cons.mp hseen
    have hkept : distinctPlaces (p.1 :: seen) found = distinctPlaces (p.1 :: seen') found :=
      ih fun q hq => by simp only [List.mem_cons, hfound q hq]
    simp only [distinctPlaces, List.contains_iff_mem, hp, ih hfound, hkept]

theorem distinctPlaces_append {found more : List (Place × Endpoint)} (seen : List Place)
    (hseen : ∀ q ∈ more, q.1 ∉ seen) (hapart : ∀ p ∈ found, ∀ q ∈ more, p.1 ≠ q.1) :
    distinctPlaces seen (found ++ more) = distinctPlaces seen found ++ distinctPlaces [] more := by
  induction found generalizing seen with
  | nil => exact distinctPlaces_congr fun q hq => by simp [hseen q hq]
  | cons p found ih =>
    obtain ⟨hp, hfound⟩ := List.forall_mem_cons.mp hapart
    have hkept := ih (p.1 :: seen) (fun q hq => by simp [hseen q hq, (hp q hq).symm]) hfound
    simp only [List.cons_append, distinctPlaces, ih seen hseen hfound, hkept]
    split
    · rfl
    · rfl

/-- The endpoints that files register if `read` tells the endpoint of a site, by whatever is known
about names and types. -/
def endpointsBy (read : Site → Except Breakdown (Option Endpoint)) (files : List SourceFile) :
    Except Breakdown (List Endpoint) := do
  let found ← (sites files).mapM fun s => do return (← read s).map (s.place, ·)
  return distinctPlaces [] (found.filterMap id)

variable {read : Site → Except Breakdown (Option Endpoint)}

theorem exists_file_of_mem_found {files : List SourceFile}
    {found : List (Option (Place × Endpoint))}
    (hfound : ((sites files).mapM fun s => do return (← read s).map (s.place, ·)) = .ok found)
    {p : Place × Endpoint} (hp : p ∈ found.filterMap id) :
    ∃ f ∈ files, p.1.file = Files.components f.path := by
  obtain ⟨entry, hentry, rfl⟩ := List.mem_filterMap.mp hp
  obtain ⟨s, hs, hread⟩ := (Except.mem_of_mapM_eq_ok hfound).2 _ hentry
  obtain ⟨e, -, hplaced⟩ := Except.bind_eq_ok hread
  obtain ⟨e, -, rfl⟩ := Option.map_eq_some_iff.mp (Except.ok.inj hplaced)
  exact exists_file_of_mem_sites hs

theorem endpointsBy_append (read : Site → Except Breakdown (Option Endpoint))
    (hpaths : ∀ f ∈ fs, ∀ g ∈ gs, Files.components f.path ≠ Files.components g.path)
    (hbinds : ∀ f ∈ fs, f.outerBindings = []) :
    endpointsBy read (fs ++ gs) =
      do return (← endpointsBy read fs) ++ (← endpointsBy read gs) := by
  simp only [endpointsBy, sites_append hbinds, List.mapM_append]
  cases hfound : (sites fs).mapM fun s => do return (← read s).map (s.place, ·) with
  | error b => rfl
  | ok found =>
    cases hmore : (sites gs).mapM fun s => do return (← read s).map (s.place, ·) with
    | error b => rfl
    | ok more =>
      have hapart : ∀ p ∈ found.filterMap id, ∀ q ∈ more.filterMap id, p.1 ≠ q.1 := by
        intro p hp q hq heq
        obtain ⟨f, hf, hpf⟩ := exists_file_of_mem_found hfound hp
        obtain ⟨g, hg, hqg⟩ := exists_file_of_mem_found hmore hq
        exact hpaths f hf g hg (by rw [← hpf, ← hqg, heq])
      have hkept := distinctPlaces_append [] (fun _ _ => List.not_mem_nil) hapart
      rw [← List.filterMap_append] at hkept
      exact congrArg Except.ok hkept

/-- Files are scanned independently. Where no path occurs among both and the earlier files bind no
variable of known type outside of functions, the endpoints of earlier and later files are those of
the earlier followed by those of the later, whatever is known about names and types; and after any
files the machine that scans them is at its one scope, in no implementation and with none to return
to. -/
theorem endpoints_append (fs gs : List SourceFile)
    (hpaths : ∀ f ∈ fs, ∀ g ∈ gs, Files.components f.path ≠ Files.components g.path)
    (hbinds : ∀ f ∈ fs, f.outerBindings = []) :
    (∀ read, endpointsBy read (fs ++ gs) =
      do return (← endpointsBy read fs) ++ (← endpointsBy read gs)) ∧
    (∀ index, endpoints index (fs ++ gs) =
      do return (← endpoints index fs) ++ (← endpoints index gs)) ∧
    ∀ files, ∃ file, Frames.ofFiles files = {
      file
      scopes := [{ bindings := (files.flatMap SourceFile.outerBindings).reverse }]
      context := none
      saved := []
      sites := sites files } :=
  ⟨fun read => endpointsBy_append read hpaths hbinds,
    fun index => endpointsBy_append (Site.endpoint? index) hpaths hbinds,
    Frames.ofFiles_eq⟩

/-- Functions within functions, traits and implementations bind variables of all names. The file
behind them is scanned as if it stood alone. -/
theorem endpoints_append_nested :
    let builder := TypeExpr.bounded ["RouteBuilder"]
    let register (method path : String) (line : Nat) : Code :=
      .expr (.method (.path ["routes"] []) method ⟨line, 9⟩ [.ofName "Request", .ofName "Response"]
        [.literal (.text path)])
    let cache : Code := .binding (.typed "routes" (.ofName "Cache")) [] none []
    let each : Code := .expr (.closure [.typed "routes" (.ofName "Cache")] [])
    let routes : Signature := { name := "routes", params := [⟨some "routes", builder⟩] }
    let first : SourceFile :=
      { path := "src/first.rs"
        items := [
          .trait "Mount" [] [] [.function { name := "open" } [cache, .function routes []]],
          .impl (some "Module") [] (some "Mount") []
            [.function routes [register "map_get" "/v1/a" 4, .function { name := "inner" } [each]],
              .function { name := "close" } [.impl none [] none [] [.function routes [cache]]]]] }
    let second : SourceFile :=
      { path := "src/second.rs"
        items := [.constant "MOUNT" [] (.closure [.name "routes"] [register "map_post" "/v1/b" 2]),
          .function routes [register "map_put" "/v1/c" 5]] }
    let index := Index.ofFiles [first, second]
    (∀ f ∈ [first], ∀ g ∈ [second], Files.components f.path ≠ Files.components g.path) ∧
      (∀ f ∈ [first], f.outerBindings = []) ∧
      (endpoints index ([first] ++ [second])).toOption.map (·.map (·.path)) =
        some ["/v1/a", "/v1/b", "/v1/c"] := by
  intro builder register cache each routes first second index
  have hpaths : ∀ f ∈ [first], ∀ g ∈ [second],
      Files.components f.path ≠ Files.components g.path := by decide
  have hbinds : ∀ f ∈ [first], f.outerBindings = [] := by
    intro f hf
    rw [List.mem_singleton.mp hf]
    rfl
  refine ⟨hpaths, hbinds, ?_⟩
  rw [(endpoints_append [first] [second] hpaths hbinds).2.1 index]
  decide +kernel

/-- A variable that is made by a constructor outside of functions, without a type, hides a
registration in the next file. -/
theorem endpoints_of_outer_constructor :
    let found := do
      let a ← parseFile? "a.rs" "static A: T = t(|| \x7b let r = C::new(); \x7d);"
      let b ← parseFile? "b.rs" "static B: T = t(|r| r.map_get::<A, B>(\"/b\"));"
      let scan (files : List SourceFile) :=
        (endpoints (Index.ofFiles [a, b]) files).toOption.map (·.map (·.path))
      return (scan [a], scan [b], scan ([a] ++ [b]))
    found = some (some [], some ["/b"], some []) := by
  intro found
  decide +kernel

end RouteContract
