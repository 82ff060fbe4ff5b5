import RouteContract.Endpoint.Metadata
import RouteContract.Proofs.Table

/-!
Which of several settings counts. The settings of an endpoint are read from a row of calls and from
a row of attributes, one after the other. Of the name, the summary and the description the last call
counts whether or not its argument has a text, so that one without a text takes back what was set
before; of the tags, the content types and the response of a status it is the last call that gives
one. Attributes are read likewise, but there the last content type counts in any case. What the
calls leave open is taken from the attributes, field by field, and status by status.

Reading asks the sources only for the texts of expressions and for the declaration of the request
type, so that all of this holds for any oracle that answers these questions.
-/

namespace RouteContract

open Source (Expr Call Attribute Index)

/-- What one call or attribute sets. A text that is set may be none, which takes back the text that
was set before. -/
structure Change where
  allowAnonymous : Bool
  operationId : Option (Option String)
  summary : Option (Option String)
  description : Option (Option String)
  tags : Option (List String)
  requestContentType : Option (Option String)
  responseContentType : Option (Option String)
  response : Option (Nat × DeclaredResponse)

def Change.apply (m : Metadata) (ch : Change) : Metadata where
  allowAnonymous := m.allowAnonymous || ch.allowAnonymous
  operationId := ch.operationId.getD m.operationId
  summary := ch.summary.getD m.summary
  description := ch.description.getD m.description
  tags := ch.tags.or m.tags
  requestContentType := ch.requestContentType.getD m.requestContentType
  responseContentType := ch.responseContentType.getD m.responseContentType
  responses := match ch.response with
    | some (status, response) => m.responses.insert status response
    | none => m.responses
  sorted := by
    split
    · exact m.sorted.insert _ _
    · exact m.sorted

namespace Metadata

variable (oracle : Oracle)

/-- The texts of some arguments, if there are any. -/
def tags? (arguments : List Expr) : Option (List String) :=
  match textLists oracle arguments with
  | [] => none
  | tags => some tags

/-- The content type of the success that a call gives: one that declares no status and no type. -/
def successOfCall? (c : Call) : Option String :=
  if c.name = "produces" ∧ statusArgument? oracle c.arguments 0 = none ∧
      namedArgument? c = none then
    textArgument? oracle c.arguments 0
  else none

/-- The status that a call declares a response for, and the response. -/
def responseOfCall? (c : Call) : Option (Nat × DeclaredResponse) :=
  match c.name with
  | "produces" => (statusArgument? oracle c.arguments 0).map fun status =>
      (status, ⟨namedArgument? c, (textArgument? oracle c.arguments 1).getD ContentType.json⟩)
  | "produces_problem" => (statusArgument? oracle c.arguments 0).map fun status =>
      (status, ⟨none, (textArgument? oracle c.arguments 1).getD ContentType.problem⟩)
  | _ => none

def callChange (c : Call) : Change where
  allowAnonymous := decide (c.name = "allow_anonymous")
  operationId := if c.name = "with_name" then some (textArgument? oracle c.arguments 0) else none
  summary := if c.name = "with_summary" then some (textArgument? oracle c.arguments 0) else none
  description :=
    if c.name = "with_description" then some (textArgument? oracle c.arguments 0) else none
  tags := if c.name = "with_tags" then tags? oracle c.arguments else none
  requestContentType :=
    (if c.name = "accepts" then textArgument? oracle c.arguments 0 else none).map some
  responseContentType := (successOfCall? oracle c).map some
  response := responseOfCall? oracle c

theorem applyCall_eq (m : Metadata) (c : Call) :
    applyCall oracle m c = (callChange oracle c).apply m := by
  rw [applyCall]
  -- One case for each name that sets something, and one for all others.
  split
  · next hname => simp [Change.apply, callChange, successOfCall?, responseOfCall?, hname]
  · next hname => simp [Change.apply, callChange, successOfCall?, responseOfCall?, hname]
  · next hname => simp [Change.apply, callChange, successOfCall?, responseOfCall?, hname]
  · next hname => simp [Change.apply, callChange, successOfCall?, responseOfCall?, hname]
  · next hname =>
    cases htags : textLists oracle c.arguments <;>
      simp [Change.apply, callChange, successOfCall?, responseOfCall?, hname, tags?, htags]
  · next hname =>
    cases htext : textArgument? oracle c.arguments 0 <;>
      simp [Change.apply, callChange, successOfCall?, responseOfCall?, hname, htext]
  · next hname =>
    cases hstatus : statusArgument? oracle c.arguments 0 with
    | some status =>
      simp [Change.apply, callChange, successOfCall?, responseOfCall?, hname, hstatus,
        Metadata.declare]
    | none =>
      cases htype : namedArgument? c with
      | some type =>
        simp [Change.apply, callChange, successOfCall?, responseOfCall?, hname, hstatus, htype]
      | none =>
        cases htext : textArgument? oracle c.arguments 0 <;>
          simp [Change.apply, callChange, successOfCall?, responseOfCall?, hname, hstatus, htype,
            htext]
  · next hname =>
    cases hstatus : statusArgument? oracle c.arguments 0 <;>
      simp [Change.apply, callChange, successOfCall?, responseOfCall?, hname, hstatus,
        Metadata.declare]
  · simp_all [Change.apply, callChange, successOfCall?, responseOfCall?]

/-- The status that an attribute declares a response for, and the response. The type is a path
behind the status, and the content type comes after it. -/
def responseOfAttribute? (note : Attribute Expr) : Option (Nat × DeclaredResponse) :=
  match note.name with
  | some "produces" => (statusArgument? oracle note.arguments 0).map fun status =>
    match note.arguments[1]?.bind Expr.lastName? with
    | some type =>
      (status, ⟨some type, (textArgument? oracle note.arguments 2).getD ContentType.json⟩)
    | none => (status, ⟨none, (textArgument? oracle note.arguments 1).getD ContentType.json⟩)
  | some "produces_problem" => (statusArgument? oracle note.arguments 0).map fun status =>
      (status, ⟨none, (textArgument? oracle note.arguments 1).getD ContentType.problem⟩)
  | _ => none

def attributeChange (note : Attribute Expr) : Change where
  allowAnonymous := decide (note.name = some "allow_anonymous")
  operationId :=
    if note.name = some "endpoint_name" then some (textArgument? oracle note.arguments 0) else none
  summary :=
    if note.name = some "endpoint_summary" then some (textArgument? oracle note.arguments 0)
    else none
  description :=
    if note.name = some "endpoint_description" then some (textArgument? oracle note.arguments 0)
    else none
  tags := if note.name = some "tags" then tags? oracle note.arguments else none
  requestContentType :=
    if note.name = some "accepts" then some (textArgument? oracle note.arguments 0) else none
  responseContentType :=
    if note.name = some "produces" ∧ statusArgument? oracle note.arguments 0 = none then
      some (textArgument? oracle note.arguments 0)
    else none
  response := responseOfAttribute? oracle note

theorem applyAttribute_eq (m : Metadata) (note : Attribute Expr) :
    applyAttribute oracle m note = (attributeChange oracle note).apply m := by
  rw [applyAttribute]
  -- The cases are those of the calls under the names of the attributes.
  split
  · next hname => simp [Change.apply, attributeChange, responseOfAttribute?, hname]
  · next hname => simp [Change.apply, attributeChange, responseOfAttribute?, hname]
  · next hname => simp [Change.apply, attributeChange, responseOfAttribute?, hname]
  · next hname => simp [Change.apply, attributeChange, responseOfAttribute?, hname]
  · next hname =>
    cases htags : textLists oracle note.arguments <;>
      simp [Change.apply, attributeChange, responseOfAttribute?, hname, tags?, htags]
  · next hname => simp [Change.apply, attributeChange, responseOfAttribute?, hname]
  · next hname =>
    cases hstatus : statusArgument? oracle note.arguments 0 with
    | some status =>
      cases htype : note.arguments[1]?.bind Expr.lastName? <;>
        simp [Change.apply, attributeChange, responseOfAttribute?, hname, hstatus, htype,
          Metadata.declare]
    | none => simp [Change.apply, attributeChange, responseOfAttribute?, hname, hstatus]
  · next hname =>
    cases hstatus : statusArgument? oracle note.arguments 0 <;>
      simp [Change.apply, attributeChange, responseOfAttribute?, hname, hstatus,
        Metadata.declare]
  · simp_all [Change.apply, attributeChange, responseOfAttribute?]

end Metadata

section Last

variable {α β : Type}

/-- What the last element of a kind gives, be it nothing. -/
def lastOf (kind : α → Bool) (f : α → Option β) (xs : List α) : Option β :=
  (xs.reverse.find? kind).bind f

/-- What the last element gives that gives something. -/
def lastGiven (f : α → Option β) (xs : List α) : Option β :=
  xs.reverse.findSome? f

@[simp]
theorem lastGiven_concat (f : α → Option β) (xs : List α) (x : α) :
    lastGiven f (xs ++ [x]) = (f x).or (lastGiven f xs) := by
  rw [lastGiven, List.reverse_concat, List.findSome?_cons]
  cases f x <;> rfl

@[simp]
theorem lastOf_concat (kind : α → Bool) (f : α → Option β) (xs : List α) (x : α) :
    lastOf kind f (xs ++ [x]) = if kind x then f x else lastOf kind f xs := by
  rw [lastOf, List.reverse_concat, List.find?_cons]
  cases kind x <;> rfl

theorem lastGiven_isSome {f : α → Option β} {xs : List α} :
    (lastGiven f xs).isSome ↔ ∃ x ∈ xs, (f x).isSome := by
  rw [lastGiven, List.findSome?_isSome_iff]
  simp only [List.mem_reverse]

/-- What the last element of a kind gives is what was set last by the elements of that kind. -/
theorem lastGiven_join (kind : α → Prop) [DecidablePred kind] (f : α → Option β) (xs : List α) :
    (lastGiven (fun x => if kind x then some (f x) else none) xs).join =
      lastOf (fun x => decide (kind x)) f xs := by
  induction xs using List.reverseRecOn with
  | nil => rfl
  | append_singleton xs x ih =>
    by_cases hkind : kind x
    · simp [hkind]
    · simpa [hkind] using ih

/-- Texts that are set only where they are given are never taken back. -/
theorem lastGiven_map_some (f : α → Option β) (xs : List α) :
    (lastGiven (fun x => (f x).map some) xs).join = lastGiven f xs := by
  induction xs using List.reverseRecOn with
  | nil => rfl
  | append_singleton xs x ih => cases hx : f x <;> simp [hx, ih]

end Last

/-- The response that is declared for a status. -/
def responseFor (status : Nat) (declared : Option (Nat × DeclaredResponse)) :
    Option DeclaredResponse :=
  (declared.filter fun entry => entry.1 = status).map (·.2)

theorem Change.lookup_apply (m : Metadata) (ch : Change) (status : Nat) :
    (ch.apply m).responses.lookup status =
      (responseFor status ch.response).or (m.responses.lookup status) := by
  have hresponses : (ch.apply m).responses = match ch.response with
      | some (status, response) => m.responses.insert status response
      | none => m.responses := rfl
  rw [hresponses]
  cases ch.response with
  | none => rfl
  | some entry =>
    rw [Table.lookup_insert]
    by_cases hstatus : status = entry.1
    · simp [responseFor, Option.filter_some, hstatus]
    · simp [responseFor, Option.filter_some, hstatus, Ne.symm hstatus]

section Run

variable {α β : Type}

/-- The settings after the changes of a row, one after the other. -/
def runChanges (change : α → Change) (xs : List α) : Metadata :=
  xs.foldl (fun m x => (change x).apply m) {}

variable (change : α → Change) (xs : List α)

theorem runChanges_concat (x : α) :
    runChanges change (xs ++ [x]) = (change x).apply (runChanges change xs) :=
  List.foldl_concat ..

theorem runChanges_allowAnonymous :
    (runChanges change xs).allowAnonymous = xs.any fun x => (change x).allowAnonymous := by
  induction xs using List.reverseRecOn with
  | nil => rfl
  | append_singleton xs x ih =>
    rw [runChanges_concat, Change.apply, ih, List.any_append, List.any_cons, List.any_nil,
      Bool.or_false]

/-- A field that a change replaces by what it sets is after a run what was set last. -/
theorem runChanges_getD (get : Metadata → Option β) (set : Change → Option (Option β))
    (hnone : get {} = none) (happly : ∀ m ch, get (ch.apply m) = (set ch).getD (get m)) :
    get (runChanges change xs) = (lastGiven (fun x => set (change x)) xs).join := by
  induction xs using List.reverseRecOn with
  | nil => exact hnone
  | append_singleton xs x ih =>
    rw [runChanges_concat, happly, ih, lastGiven_concat]
    cases set (change x) <;> rfl

/-- A field that a change replaces only where it gives something is after a run what was given
last. -/
theorem runChanges_or (get : Metadata → Option β) (set : Change → Option β)
    (hnone : get {} = none) (happly : ∀ m ch, get (ch.apply m) = (set ch).or (get m)) :
    get (runChanges change xs) = lastGiven (fun x => set (change x)) xs := by
  induction xs using List.reverseRecOn with
  | nil => exact hnone
  | append_singleton xs x ih => rw [runChanges_concat, happly, ih, lastGiven_concat]

theorem runChanges_lookup (status : Nat) :
    (runChanges change xs).responses.lookup status =
      lastGiven (fun x => responseFor status (change x).response) xs :=
  runChanges_or change xs (fun m => m.responses.lookup status)
    (fun ch => responseFor status ch.response) rfl (fun m ch => ch.lookup_apply m status)

end Run

namespace Metadata

variable (oracle : Oracle)

theorem ofCalls_eq_runChanges (calls : List Call) :
    ofCalls oracle calls = runChanges (callChange oracle) calls := by
  rw [ofCalls, runChanges, funext₂ (applyCall_eq oracle)]

theorem ofAttributes_eq_runChanges (notes : List (Attribute Expr)) :
    ofAttributes oracle notes = runChanges (attributeChange oracle) notes := by
  rw [ofAttributes, runChanges, funext₂ (applyAttribute_eq oracle)]

end Metadata

theorem Metadata.orElse_empty (m : Metadata) : m.orElse {} = m := by
  obtain ⟨allowAnonymous, operationId, summary, description, tags, request, response, _⟩ := m
  cases operationId <;> cases summary <;> cases description <;> cases tags <;> cases request <;>
    cases response <;> simp [orElse]

/-- A field that falls back to other settings is what one run of changes set last, or else what
another one did. -/
theorem get_orElse_runChanges {α α' β : Type} (change : α → Change) (xs : List α)
    (change' : α' → Change) (ys : List α') (get : Metadata → Option β)
    (set : Change → Option (Option β)) (hnone : get {} = none)
    (happly : ∀ m ch, get (ch.apply m) = (set ch).getD (get m))
    (horElse : ∀ m m', get (m.orElse m') = (get m <|> get m')) :
    get ((runChanges change xs).orElse (runChanges change' ys)) =
      (lastGiven (fun x => set (change x)) xs).join.or
        (lastGiven (fun y => set (change' y)) ys).join := by
  rw [horElse, runChanges_getD change xs get set hnone happly,
    runChanges_getD change' ys get set hnone happly, Option.orElse_eq_orElse, Option.orElse_eq_or]

namespace Metadata

variable (oracle : Oracle) (calls : List Call) (requestType : String)

/-- The attributes of a declared type; a type that is not declared has none. -/
def attributesOf : List (Attribute Expr) :=
  match oracle.lookupType? requestType with
  | some decl => decl.attributes
  | none => []

theorem ofEndpoint_eq_orElse :
    ofEndpoint oracle calls requestType =
      (ofCalls oracle calls).orElse (ofAttributes oracle (attributesOf oracle requestType)) := by
  rw [ofEndpoint, attributesOf]
  cases oracle.lookupType? requestType with
  | some decl => rfl
  | none => exact (orElse_empty _).symm

/-- The settings `m` are, field by field, those of calls and, where the calls leave them open, those
of attributes. -/
structure Precedence (notes : List (Attribute Expr)) (m : Metadata) : Prop where
  allowAnonymous : m.allowAnonymous = true ↔
    (∃ c ∈ calls, c.name = "allow_anonymous") ∨ ∃ note ∈ notes, note.name = some "allow_anonymous"
  operationId : m.operationId =
    (lastOf (fun c => c.name = "with_name") (fun c => textArgument? oracle c.arguments 0) calls).or
      (lastOf (fun note => note.name = some "endpoint_name")
        (fun note => textArgument? oracle note.arguments 0) notes)
  summary : m.summary =
    (lastOf (fun c => c.name = "with_summary")
      (fun c => textArgument? oracle c.arguments 0) calls).or
      (lastOf (fun note => note.name = some "endpoint_summary")
        (fun note => textArgument? oracle note.arguments 0) notes)
  description : m.description =
    (lastOf (fun c => c.name = "with_description")
      (fun c => textArgument? oracle c.arguments 0) calls).or
      (lastOf (fun note => note.name = some "endpoint_description")
        (fun note => textArgument? oracle note.arguments 0) notes)
  tags : m.tags =
    (lastGiven (fun c => if c.name = "with_tags" then tags? oracle c.arguments else none)
      calls).or
      (lastGiven (fun note =>
        if note.name = some "tags" then tags? oracle note.arguments else none) notes)
  requestContentType : m.requestContentType =
    (lastGiven (fun c => if c.name = "accepts" then textArgument? oracle c.arguments 0 else none)
      calls).or
      (lastOf (fun note => note.name = some "accepts")
        (fun note => textArgument? oracle note.arguments 0) notes)
  responseContentType : m.responseContentType =
    (lastGiven (successOfCall? oracle) calls).or
      (lastOf (fun note =>
          note.name = some "produces" ∧ statusArgument? oracle note.arguments 0 = none)
        (fun note => textArgument? oracle note.arguments 0) notes)
  response : ∀ status, m.responses.lookup status =
    (lastGiven (fun c => responseFor status (responseOfCall? oracle c)) calls).or
      (lastGiven (fun note => responseFor status (responseOfAttribute? oracle note)) notes)
  /-- What the calls declare for a status stays. -/
  kept : ∀ status, (∃ c ∈ calls, (responseFor status (responseOfCall? oracle c)).isSome) →
    m.responses.lookup status = (ofCalls oracle calls).responses.lookup status

theorem precedence_orElse (notes : List (Attribute Expr)) :
    Precedence oracle calls notes ((ofCalls oracle calls).orElse (ofAttributes oracle notes)) := by
  rw [ofCalls_eq_runChanges, ofAttributes_eq_runChanges]
  have hfield (get : Metadata → Option String) (set : Change → Option (Option String)) :=
    get_orElse_runChanges (callChange oracle) calls (attributeChange oracle) notes get set
  -- The responses of the attributes fill the gaps that the calls leave, status by status.
  have hresponse : ∀ status, ((runChanges (callChange oracle) calls).orElse
      (runChanges (attributeChange oracle) notes)).responses.lookup status =
      (lastGiven (fun c => responseFor status (responseOfCall? oracle c)) calls).or
        (lastGiven (fun note => responseFor status (responseOfAttribute? oracle note)) notes) := by
    intro status
    rw [Metadata.orElse, Table.lookup_foldl_insertNew, runChanges_lookup, runChanges_lookup]
    rfl
  constructor
  case allowAnonymous =>
    simp [Metadata.orElse, runChanges_allowAnonymous, callChange, attributeChange]
  case operationId =>
    simpa only [callChange, attributeChange, lastGiven_join] using
      hfield Metadata.operationId Change.operationId rfl (fun _ _ => rfl) (fun _ _ => rfl)
  case summary =>
    simpa only [callChange, attributeChange, lastGiven_join] using
      hfield Metadata.summary Change.summary rfl (fun _ _ => rfl) (fun _ _ => rfl)
  case description =>
    simpa only [callChange, attributeChange, lastGiven_join] using
      hfield Metadata.description Change.description rfl (fun _ _ => rfl) (fun _ _ => rfl)
  case tags =>
    simp only [Metadata.orElse, runChanges_or _ _ Metadata.tags Change.tags rfl (fun _ _ => rfl),
      Option.orElse_eq_orElse, Option.orElse_eq_or, callChange, attributeChange]
  case requestContentType =>
    simpa only [callChange, attributeChange, lastGiven_join, lastGiven_map_some] using
      hfield Metadata.requestContentType Change.requestContentType rfl (fun _ _ => rfl)
        (fun _ _ => rfl)
  case responseContentType =>
    simpa only [callChange, attributeChange, lastGiven_join, lastGiven_map_some] using
      hfield Metadata.responseContentType Change.responseContentType rfl (fun _ _ => rfl)
        (fun _ _ => rfl)
  case response => exact hresponse
  case kept =>
    intro status hdeclared
    rw [hresponse, ofCalls_eq_runChanges, runChanges_lookup]
    exact Option.or_of_isSome (lastGiven_isSome.mpr hdeclared)

end Metadata

/-- Settings are read with precedence, whatever the oracle, and so by the index of any sources:
field by field the last call that counts gives the value, or else the last attribute of the request
type that does. -/
theorem Metadata.ofEndpoint_precedence (oracle : Oracle) (calls : List Call)
    (requestType : String) :
    Precedence oracle calls (attributesOf oracle requestType)
      (ofEndpoint oracle calls requestType) := by
  rw [ofEndpoint_eq_orElse]
  exact precedence_orElse oracle calls _

/-- A name that is taken back by a constant that nothing declares, so that the attribute names the
operation, and a status that both a call and an attribute declare. -/
theorem Metadata.ofEndpoint_precedence_item :
    let call (name : String) (arguments : List Expr) : Call :=
      ⟨.path ["routes"] [], name, ⟨1, 0⟩, [], arguments⟩
    let note (name : String) (arguments : List Expr) : Attribute Expr :=
      { name := some name, arguments }
    let attributes : List (Attribute Expr) :=
      [note "endpoint_name" [.literal (.text "FindItem")],
        note "produces" [.literal (.whole 404 ""), .path ["Missing"] []],
        note "produces" [.literal (.whole 409 "")]]
    let index : Index :=
      { types := [("FindItem", .record { name := "FindItem", attributes })]
        builderTrait := "RouteBuilder", builderTraits := [], builderTypes := [] }
    let calls : List Call :=
      [call "with_name" [.literal (.text "GetItem")], call "with_name" [.path ["NAME"] []],
        call "produces" [.literal (.whole 404 "")]]
    let m := ofEndpoint index calls "FindItem"
    m.operationId = some "FindItem" ∧
      m.responses.lookup 404 = some ⟨none, "application/json"⟩ ∧
      m.responses.lookup 404 = (ofCalls index calls).responses.lookup 404 ∧
      m.responses.lookup 409 = some ⟨none, "application/json"⟩ := by
  intro call note attributes index calls m
  have hm := ofEndpoint_precedence index calls "FindItem"
  refine ⟨hm.operationId.trans (by decide +kernel), (hm.response 404).trans (by decide +kernel),
    hm.kept 404 ?_, (hm.response 409).trans (by decide +kernel)⟩
  exact ⟨call "produces" [.literal (.whole 404 "")], by simp [calls], by decide +kernel⟩

end RouteContract
