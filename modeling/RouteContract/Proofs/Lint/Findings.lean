import Mathlib.Tactic
import RouteContract.Lint.Rules
import RouteContract.Table

/-!
What findings are about, whatever document is looked at. A finding is about the document as a whole,
about one of its paths or about one of its component schemas. Those about a path come from the path
itself or from an operation under it, and every entry that is looked at brings its findings into
those of the document, if this has a version.
-/

namespace RouteContract.Lint

variable {o : Options} {f : Finding}

/-- A finding about an operation, its request or one of its responses. -/
def Finding.isOperational : Finding → Bool
  | securityMissing _ | schemeMissing _ | noResponses _ | statusMissing _ _ | contentMissing _
  | schemaMissing _ _ => true
  | _ => false

/-- What a finding can be about. -/
inductive Subject where
  | document
  | path (path : String)
  | schema (name : String)
  deriving DecidableEq

def Place.path : Place → String
  | operation _ path => path
  | response _ path _ => path

def Finding.subject : Finding → Subject
  | missingVersion | wrongVersion _ _ | noPaths => .document
  | unversionedPath path | genericPath path => .path path
  | securityMissing place | schemeMissing place | noResponses place | statusMissing _ place
  | contentMissing place | schemaMissing place _ => .path place.path
  | undescribed _ schema => .schema schema

theorem subject_of_mem_contentFindings {place : Place} {container : Json}
    (h : f ∈ contentFindings place container) :
    f.isOperational ∧ f.subject = .path place.path := by
  unfold contentFindings at h
  split at h
  · rw [List.mem_singleton] at h
    subst h
    exact ⟨rfl, rfl⟩
  · obtain ⟨media, -, rfl⟩ := List.mem_map.mp h
    exact ⟨rfl, rfl⟩

/-- Whatever an operation is, what is found in it is about it. -/
theorem subject_of_mem_operationFindings {method path : String} {operation : Json}
    (h : f ∈ o.operationFindings method path operation) :
    f.isOperational ∧ f.subject = .path path := by
  unfold Options.operationFindings at h
  simp only [List.mem_append] at h
  rcases h with ((hsecurity | hstatus) | hbody) | hresponse
  · unfold securityFindings at hsecurity
    split at hsecurity
    · split at hsecurity
      · cases hsecurity
      · rw [List.mem_singleton] at hsecurity
        subst hsecurity
        exact ⟨rfl, rfl⟩
    · rw [List.mem_singleton] at hsecurity
      subst hsecurity
      exact ⟨rfl, rfl⟩
  · unfold Options.statusFindings at hstatus
    dsimp only at hstatus
    split at hstatus
    · rw [List.mem_singleton] at hstatus
      subst hstatus
      exact ⟨rfl, rfl⟩
    · obtain ⟨status, -, rfl⟩ := List.mem_map.mp hstatus
      exact ⟨rfl, rfl⟩
  · unfold bodyFindings at hbody
    split at hbody
    · split at hbody
      · exact subject_of_mem_contentFindings hbody
      · cases hbody
    · cases hbody
  · obtain ⟨response, -, hfound⟩ := List.mem_flatMap.mp hresponse
    unfold responseFindings at hfound
    split at hfound
    · exact subject_of_mem_contentFindings hfound
    · cases hfound

theorem subject_of_mem_itemFindings {path : String} {item : Json}
    (h : f ∈ o.itemFindings path item) : f.isOperational ∧ f.subject = .path path := by
  obtain ⟨method, -, hfound⟩ := List.mem_flatMap.mp h
  split at hfound
  · split at hfound
    · exact subject_of_mem_operationFindings hfound
    · cases hfound
  · cases hfound

theorem mem_pathFindings {path : String} (h : f ∈ o.pathFindings path) :
    f = .unversionedPath path ∨ f = .genericPath path := by
  unfold Options.pathFindings at h
  split at h
  · exact Or.inl (List.mem_singleton.mp h)
  · split at h
    · exact Or.inr (List.mem_singleton.mp h)
    · cases h

/-- Everything that is found under a path. -/
def Options.entryFindings (o : Options) (entry : String × Json) : List Finding :=
  o.pathFindings entry.1 ++ o.itemFindings entry.1 entry.2

theorem subject_of_mem_entryFindings {entry : String × Json} (h : f ∈ o.entryFindings entry) :
    f.subject = .path entry.1 := by
  rcases List.mem_append.mp h with hpath | hitem
  · rcases mem_pathFindings hpath with rfl | rfl <;> rfl
  · exact (subject_of_mem_itemFindings hitem).2

/-- The paths of a document. -/
def pathsOf (root : Json) : List (String × Json) :=
  ((root.get? "paths").bind Json.asObject?).getD []

theorem pathsFindings_eq (o : Options) (root : Json) (requirePaths : Bool) :
    o.pathsFindings root requirePaths =
      (if (pathsOf root).isEmpty && requirePaths then [.noPaths] else []) ++
        (pathsOf root).flatMap o.entryFindings := by
  change (if (pathsOf root).isEmpty then if requirePaths then [Finding.noPaths] else []
    else (pathsOf root).flatMap o.entryFindings) = _
  cases hpaths : pathsOf root with
  | nil => cases requirePaths <;> rfl
  | cons entry rest => rfl

theorem noPaths_mem_pathsFindings_iff (o : Options) (root : Json) (requirePaths : Bool) :
    .noPaths ∈ o.pathsFindings root requirePaths ↔ pathsOf root = [] ∧ requirePaths := by
  rw [pathsFindings_eq, List.mem_append, ← List.isEmpty_iff, ← Bool.and_eq_true]
  have hentry : Finding.noPaths ∉ (pathsOf root).flatMap o.entryFindings := by
    intro h
    obtain ⟨entry, -, hfound⟩ := List.mem_flatMap.mp h
    have hsubject := subject_of_mem_entryFindings hfound
    cases hsubject
  cases (pathsOf root).isEmpty && requirePaths <;> simp [hentry]

theorem subject_of_mem_schemaFindings {schema : String × Json} (h : f ∈ o.schemaFindings schema) :
    f.subject = .schema schema.1 := by
  obtain ⟨property, -, rfl⟩ := List.mem_map.mp h
  rfl

theorem findings_of_version (o : Options) {root : Json} (requirePaths : Bool)
    (hversion : root.get? "openapi" = some (.str formatVersion)) :
    o.findings root requirePaths =
      o.pathsFindings root requirePaths ++ (schemasOf root).flatMap o.schemaFindings := by
  have hright : versionFindings (.str formatVersion) = [] := rfl
  rw [Options.findings, hversion]
  dsimp only
  rw [hright, List.nil_append]

theorem mem_findings_of_entry {root : Json} (hversion : (root.get? "openapi").isSome)
    {entry : String × Json} (hentry : entry ∈ pathsOf root) (h : f ∈ o.entryFindings entry)
    (requirePaths : Bool) : f ∈ o.findings root requirePaths := by
  obtain ⟨version, hversion⟩ := Option.isSome_iff_exists.mp hversion
  have hpaths : f ∈ o.pathsFindings root requirePaths := by
    rw [pathsFindings_eq]
    exact List.mem_append_right _ (List.mem_flatMap.mpr ⟨entry, hentry, h⟩)
  rw [Options.findings, hversion]
  exact List.mem_append_left _ (List.mem_append_right _ hpaths)

theorem mem_findings_of_schema {root : Json} (hversion : (root.get? "openapi").isSome)
    {schema : String × Json} (hschema : schema ∈ schemasOf root) (h : f ∈ o.schemaFindings schema)
    (requirePaths : Bool) : f ∈ o.findings root requirePaths := by
  obtain ⟨version, hversion⟩ := Option.isSome_iff_exists.mp hversion
  rw [Options.findings, hversion]
  exact List.mem_append_right _ (List.mem_flatMap.mpr ⟨schema, hschema, h⟩)

theorem lint_eq_nil_iff (o : Options) (source : String) (root : Json)
    (requirePaths : Bool) :
    o.lint source root requirePaths = [] ↔ o.findings root requirePaths = [] := by
  rw [Options.lint, List.map_eq_nil_iff]

theorem version_of_findings_eq_nil {o : Options} {root : Json} {requirePaths : Bool}
    (h : o.findings root requirePaths = []) : (root.get? "openapi").isSome := by
  rw [Options.findings] at h
  split at h
  · cases h
  · next version hversion => rw [hversion, Option.isSome_some]

/-- A document in which nothing is found has a path, if it must have one. -/
theorem pathsOf_ne_nil_of_findings {o : Options} {root : Json} (h : o.findings root true = []) :
    pathsOf root ≠ [] := by
  intro hempty
  have hnone := (noPaths_mem_pathsFindings_iff o root true).mpr ⟨hempty, rfl⟩
  obtain ⟨version, hversion⟩ := Option.isSome_iff_exists.mp (version_of_findings_eq_nil h)
  rw [Options.findings, hversion] at h
  simp only [List.append_eq_nil_iff] at h
  rw [h.1.2] at hnone
  cases hnone

end RouteContract.Lint
