import RouteContract.Proofs.Document.Operations

/-!
The responses of an operation, status by status: a declared response comes before the shared error
and before the success of the same status. Statuses are written as texts and no two of them alike,
so that an operation answers exactly the declared statuses and the common ones, each in one place.
-/

namespace RouteContract

namespace Operation

/-- Statuses are written differently if they differ. -/
theorem status_injective : Function.Injective (toString : Nat → String) := by
  intro m n h
  have hdigits : Nat.toDigits 10 m = Nat.toDigits 10 n := by
    rw [← Nat.toList_repr, ← Nat.toList_repr]
    exact congrArg String.toList h
  have hread := congrArg (Nat.ofDigitChars 10 · 0) hdigits
  simpa using hread

/-- The declared responses of an endpoint by their statuses. -/
def declaredResponses (e : Endpoint) : Table String Response :=
  e.responses.map fun entry => (toString entry.1, entry.2.toResponse entry.1)

/-- The shared errors by their statuses. -/
def sharedResponses : Table String Response :=
  sharedErrors.map fun entry =>
    (toString entry.1, .reference ("#/components/responses/" ++ entry.2))

theorem nodup_declaredResponses (e : Endpoint) : ((declaredResponses e).map (·.1)).Nodup := by
  rw [declaredResponses, List.map_map]
  have hkeys := e.sorted.nodup.map status_injective
  rwa [List.map_map] at hkeys

theorem lookup_declaredResponses (e : Endpoint) (status : Nat) :
    (declaredResponses e).lookup (toString status) =
      (e.responses.lookup status).map fun r => r.toResponse status :=
  Table.lookup_map_key status_injective
    (fun (status : Nat) (r : DeclaredResponse) => r.toResponse status) e.responses status

/-- What an operation answers for a status. -/
theorem lookup_responsesOf (e : Endpoint) (status : String) :
    (responsesOf e).lookup status = ((declaredResponses e).lookup status).or
      ((sharedResponses.lookup status).or (List.lookup status [("200", success e)])) := by
  let declared := (declaredResponses e).foldl
    (fun t entry => Table.insert entry.1 entry.2 t) [("200", success e)]
  let leaveOut := fun status => ((declaredResponses e).lookup status).isSome
  have hrun : responsesOf e = sharedResponses.foldl (fun t entry =>
      if leaveOut entry.1 then t else Table.insert entry.1 entry.2 t) declared := by
    simp only [responsesOf, sharedResponses, List.foldl_map, leaveOut, lookup_declaredResponses,
      Option.isSome_map]
    simp only [declared, declaredResponses, List.foldl_map]
  have hdeclared : declared.lookup status = ((declaredResponses e).lookup status).or
      (List.lookup status [("200", success e)]) :=
    Table.lookup_foldl_insert (fun _ => false) (nodup_declaredResponses e) _ status
  have hshared : (sharedResponses.map (·.1)).Nodup := by decide
  rw [hrun, Table.lookup_foldl_insert leaveOut hshared, hdeclared]
  cases hstatus : (declaredResponses e).lookup status with
  | none => rw [if_neg (by simp [leaveOut, hstatus]), Option.none_or, Option.none_or]
  | some r => rw [if_pos (by simp [leaveOut, hstatus]), Option.some_or, Option.some_or]

theorem mem_responsesOf {e : Endpoint} {entry : String × Response} (h : entry ∈ responsesOf e) :
    entry ∈ declaredResponses e ∨ entry ∈ sharedResponses ∨ entry = ("200", success e) := by
  have hlookup := Table.lookup_of_mem (sorted_responsesOf e).nodup h
  rw [lookup_responsesOf, Option.or_eq_some_iff, Option.or_eq_some_iff] at hlookup
  rcases hlookup with hdeclared | ⟨-, hshared | ⟨-, hsuccess⟩⟩
  · exact Or.inl (Table.mem_of_lookup hdeclared)
  · exact Or.inr (Or.inl (Table.mem_of_lookup hshared))
  · exact Or.inr (Or.inr (List.mem_singleton.mp (Table.mem_of_lookup hsuccess)))

/-- The statuses that an operation answers: those that its endpoint declares, and the common ones
that it does not declare. -/
def answered (e : Endpoint) : List Nat :=
  e.responses.map (·.1) ++ [200, 400, 401, 500].filter fun status =>
    status ∉ e.responses.map (·.1)

theorem nodup_answered (e : Endpoint) : (answered e).Nodup := by
  refine List.nodup_append.mpr ⟨e.sorted.nodup, List.Nodup.filter _ (by decide), ?_⟩
  intro status hdeclared other hother heq
  have hundeclared := (List.mem_filter.mp hother).2
  rw [decide_eq_true_iff, ← heq] at hundeclared
  exact hundeclared hdeclared

theorem mem_answered {e : Endpoint} {status : Nat} :
    status ∈ answered e ↔ status ∈ e.responses.map (·.1) ∨ status ∈ [200, 400, 401, 500] := by
  rw [answered, List.mem_append, List.mem_filter, decide_eq_true_iff]
  by_cases hdeclared : status ∈ e.responses.map (·.1)
  · exact ⟨fun _ => Or.inl hdeclared, fun _ => Or.inl hdeclared⟩
  · exact or_congr_right ⟨fun h => h.1, fun h => ⟨h, hdeclared⟩⟩

theorem mem_keys_responsesOf {e : Endpoint} {key : String} :
    key ∈ (responsesOf e).map (·.1) ↔ ∃ status ∈ answered e, toString status = key := by
  have hdeclared : ((declaredResponses e).lookup key).isSome ↔
      ∃ status ∈ e.responses.map (·.1), toString status = key := by
    rw [Table.lookup_isSome_iff, declaredResponses, List.map_map]
    simp
  have hcommon : (sharedResponses.lookup key).isSome ∨
      (List.lookup key [("200", success e)]).isSome ↔
        ∃ status ∈ [200, 400, 401, 500], toString status = key := by
    rw [Table.lookup_isSome_iff, Table.lookup_isSome_iff]
    have hkeys : sharedResponses.map (·.1) = [400, 401, 500].map toString := rfl
    have hsuccess : [("200", success e)].map (·.1) = [200].map toString := rfl
    rw [hkeys, hsuccess, or_comm, ← List.mem_append, ← List.map_append, List.mem_map]
    rfl
  rw [← Table.lookup_isSome_iff, lookup_responsesOf, Option.isSome_or, Option.isSome_or,
    Bool.or_eq_true, Bool.or_eq_true, hdeclared, hcommon]
  simp only [mem_answered, or_and_right, exists_or]

/-- An operation has one response for every status that it answers, and no others. -/
theorem keys_responsesOf_perm (e : Endpoint) :
    ((responsesOf e).map (·.1)).Perm ((answered e).map toString) := by
  have hstatuses := (nodup_answered e).map status_injective
  refine (List.perm_ext_iff_of_nodup (sorted_responsesOf e).nodup hstatuses).mpr ?_
  intro key
  rw [mem_keys_responsesOf, List.mem_map]

theorem lookup_responsesOf_of_declared {e : Endpoint} {status : Nat} {r : DeclaredResponse}
    (h : (status, r) ∈ e.responses) :
    (responsesOf e).lookup (toString status) = some (r.toResponse status) := by
  rw [lookup_responsesOf, lookup_declaredResponses, Table.lookup_of_mem e.sorted.nodup h,
    Option.map_some, Option.some_or]

theorem lookup_responsesOf_of_undeclared {e : Endpoint} {status : Nat}
    (h : status ∉ e.responses.map (·.1)) :
    (responsesOf e).lookup (toString status) = (sharedResponses.lookup (toString status)).or
      (List.lookup (toString status) [("200", success e)]) := by
  rw [lookup_responsesOf, lookup_declaredResponses, Table.lookup_eq_none_iff.mpr h,
    Option.map_none, Option.none_or]

theorem lookup_responsesOf_of_shared {e : Endpoint} {status : Nat} {name : String}
    (hshared : (status, name) ∈ sharedErrors) (h : status ∉ e.responses.map (·.1)) :
    (responsesOf e).lookup (toString status) =
      some (.reference ("#/components/responses/" ++ name)) := by
  have hstatuses : (sharedErrors.map (·.1)).Nodup := by decide
  have hlookup := Table.lookup_map_key status_injective
    (fun _ name => Response.reference ("#/components/responses/" ++ name)) sharedErrors status
  rw [Table.lookup_of_mem hstatuses hshared, Option.map_some] at hlookup
  rw [lookup_responsesOf_of_undeclared h, sharedResponses, hlookup, Option.some_or]

theorem lookup_responsesOf_success {e : Endpoint} (h : 200 ∉ e.responses.map (·.1)) :
    (responsesOf e).lookup (toString 200) = some (success e) := by
  have hshared : sharedResponses.lookup (toString 200) = none := by decide
  rw [lookup_responsesOf_of_undeclared h, hshared, Option.none_or]
  exact Table.lookup_of_mem (List.nodup_singleton _) List.mem_cons_self

end Operation

namespace DeclaredResponse

/-- A declared response is inline. It has a body exactly if it has a type or is a problem, and the
body refers to the type, or is any object. -/
theorem exists_toResponse (r : DeclaredResponse) (status : Nat) :
    ∃ content, r.toResponse status = .inline (statusDescription status) content ∧
      (content.isSome ↔ r.type.isSome ∨ r.contentType = "application/problem+json") ∧
      (∀ type, r.type = some type → content.map (·.entries) =
        some [(r.contentType, { reference := some ("#/components/schemas/" ++ type) })]) ∧
      (r.type = none → r.contentType = "application/problem+json" →
        content.map (·.entries) = some [(r.contentType, { type := some "object" })]) := by
  refine ⟨_, rfl, ?_, ?_, ?_⟩
  · rw [content?]
    cases r.type with
    | some type => simp
    | none => simp [ContentType.problem]
  · intro type htype
    rw [content?, htype]
    rfl
  · intro htype hproblem
    have hbody : r.content? = some (.single r.contentType (.ofType "object")
        (Schema.hasDistinctNames_ofType "object")) := by
      rw [content?, htype]
      exact if_pos (beq_iff_eq.mpr hproblem)
    rw [hbody, hproblem]
    rfl

end DeclaredResponse

namespace Document

/-- The responses of an operation. They are those of the declared and the common statuses, each
status under a key of its own. A declared status, be it a common one or not, is answered as it is
declared; the success refers to the response type unless it is declared, and so do the common errors
to shared responses. -/
theorem responses_of_emitted (index : Source.Index) (info : Info) {es : List Endpoint}
    {e : Endpoint} (he : e ∈ emitted es) :
    ∃ operation, operation? (ofEndpoints index info es).paths e.path e.verb.key = some operation ∧
      let declared := e.responses.map (·.1)
      let answer (status : Nat) := operation.responses.lookup (toString status)
      (operation.responses.map (·.1)).Nodup ∧
      (operation.responses.map (·.1)).Perm ((Operation.answered e).map toString) ∧
      (∀ status r, (status, r) ∈ e.responses → ∃ content,
        answer status = some (.inline (statusDescription status) content) ∧
        (content.isSome ↔ r.type.isSome ∨ r.contentType = "application/problem+json") ∧
        (∀ type, r.type = some type → content.map (·.entries) =
          some [(r.contentType, { reference := some ("#/components/schemas/" ++ type) })]) ∧
        (r.type = none → r.contentType = "application/problem+json" →
          content.map (·.entries) = some [(r.contentType, { type := some "object" })])) ∧
      (200 ∉ declared → ∃ content,
        answer 200 = some (.inline "Successful response" (some content)) ∧ content.entries =
          [(e.responseContentType,
            { reference := some ("#/components/schemas/" ++ e.responseType) })]) ∧
      (∀ status name,
        (status, name) ∈
          [(400, "BadRequest"), (401, "Unauthorized"), (500, "InternalServerError")] →
        status ∉ declared →
        answer status = some (.reference ("#/components/responses/" ++ name))) := by
  refine ⟨_, operation?_of_emitted _ he, ?_⟩
  intro declared answer
  refine ⟨(Operation.sorted_responsesOf e).nodup, Operation.keys_responsesOf_perm e, ?_, ?_, ?_⟩
  · intro status r hr
    obtain ⟨content, hresponse, hcontent⟩ := r.exists_toResponse status
    refine ⟨content, ?_, hcontent⟩
    rw [← hresponse]
    exact Operation.lookup_responsesOf_of_declared hr
  · exact fun h => ⟨_, Operation.lookup_responsesOf_success h, rfl⟩
  · intro status name
    exact Operation.lookup_responsesOf_of_shared

/-- An endpoint that declares its success without a body, a shared error with a type of its own, and
a problem. -/
theorem responses_of_emitted_orders :
    let e : Endpoint :=
      { verb := .post, path := "/v1/orders", requestType := "NewOrder", responseType := "Order"
        responses := [(200, ⟨none, "application/json"⟩), (401, ⟨some "Denied", "text/xml"⟩),
          (422, ⟨none, "application/problem+json"⟩)], sorted := by decide }
    e ∈ emitted [e, e] ∧
    ∃ operation,
      operation? (ofEndpoints (.ofFiles []) defaultInfo [e, e]).paths "/v1/orders" "post" =
        some operation ∧
      (operation.responses.map (·.1)).Perm ["200", "401", "422", "400", "500"] ∧
      operation.responses.lookup "200" = some (.inline "Successful response" none) ∧
      (∃ content, operation.responses.lookup "401" = some (.inline "Unauthorized" content) ∧
        content.map (·.entries) =
          some [("text/xml", { reference := some "#/components/schemas/Denied" })]) ∧
      (∃ content, operation.responses.lookup "422" =
          some (.inline "Unprocessable Entity" content) ∧
        content.map (·.entries) =
          some [("application/problem+json", { type := some "object" })]) ∧
      operation.responses.lookup "500" =
        some (.reference "#/components/responses/InternalServerError") := by
  intro e
  have he : e ∈ emitted [e, e] := List.mem_cons_self
  obtain ⟨operation, hoperation, -, hkeys, hdeclared, -, hshared⟩ :=
    responses_of_emitted (.ofFiles []) defaultInfo he
  refine ⟨he, operation, hoperation, hkeys, ?_, ?_, ?_,
    hshared 500 "InternalServerError" (by decide) (by decide)⟩
  · obtain ⟨content, hanswer, hbody, -⟩ := hdeclared 200 ⟨none, "application/json"⟩ (by decide)
    have hnone : content = none := by
      rw [← Option.not_isSome_iff_eq_none, hbody]
      decide
    rw [← hnone]
    exact hanswer
  · obtain ⟨content, hanswer, -, htype, -⟩ :=
      hdeclared 401 ⟨some "Denied", "text/xml"⟩ (by decide)
    exact ⟨content, hanswer, htype "Denied" rfl⟩
  · obtain ⟨content, hanswer, -, -, hproblem⟩ :=
      hdeclared 422 ⟨none, "application/problem+json"⟩ (by decide)
    exact ⟨content, hanswer, hproblem rfl rfl⟩

end Document

end RouteContract
