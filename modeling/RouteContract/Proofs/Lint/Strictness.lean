import Mathlib.Data.List.Flatten
import Mathlib.Tactic
import RouteContract.Proofs.Lint.Findings

/-!
Options of which one asks for everything that the other asks for. Every rule that reads the options
reads them in its own way: a missing status is found for each required one, in their order, but a
path or a property at most once, however many entries of a list match it. Through all of them the
stricter options find what the others find, in the same order, and possibly more in between.
-/

namespace RouteContract.Lint

/-- Each list of the first options is a part of the same list of the second, in the same order. -/
structure Options.Within (a b : Options) : Prop where
  statuses : a.requiredStatuses.Sublist b.requiredStatuses
  names : a.sensitiveNames.Sublist b.sensitiveNames
  segments : a.genericSegments.Sublist b.genericSegments

namespace Options.Within

variable {a b : Options}

theorem isTooGeneric (h : a.Within b) {rest : List String} (hgeneric : a.isTooGeneric rest) :
    b.isTooGeneric rest := by
  simp only [Options.isTooGeneric, Bool.and_eq_true, Bool.or_eq_true,
    List.any_eq_true] at hgeneric ⊢
  obtain ⟨hrest, hparameters | ⟨s, hs, denied, hdenied, hsame⟩⟩ := hgeneric
  · exact ⟨hrest, Or.inl hparameters⟩
  · exact ⟨hrest, Or.inr ⟨s, hs, denied, h.segments.subset hdenied, hsame⟩⟩

theorem pathFindings (h : a.Within b) (path : String) :
    (a.pathFindings path).Sublist (b.pathFindings path) := by
  rw [Options.pathFindings, Options.pathFindings]
  cases afterVersion? path with
  | none => exact .refl _
  | some rest =>
    dsimp only
    split_ifs with hgeneric hstricter hstricter
    · exact .refl _
    · exact absurd (h.isTooGeneric hgeneric) hstricter
    · exact List.nil_sublist _
    · exact .refl _

theorem statusFindings (h : a.Within b) (place : Place) (operation : Json) :
    (a.statusFindings place operation).Sublist (b.statusFindings place operation) := by
  rw [Options.statusFindings, Options.statusFindings]
  split
  · exact .refl _
  · exact (h.statuses.filter _).map _

/-- Of the four rules for an operation only the one for its statuses reads the options. -/
theorem operationFindings (h : a.Within b) (method path : String) (operation : Json) :
    (a.operationFindings method path operation).Sublist
      (b.operationFindings method path operation) := by
  rw [Options.operationFindings, Options.operationFindings]
  have hstatus := h.statusFindings (.operation method path) operation
  exact ((hstatus.append_left _).append_right _).append_right _

theorem itemFindings (h : a.Within b) (path : String) (item : Json) :
    (a.itemFindings path item).Sublist (b.itemFindings path item) := by
  rw [Options.itemFindings, Options.itemFindings]
  refine List.Sublist.flatMap_right _ fun method _ => ?_
  cases item.get? method with
  | none => exact .refl _
  | some operation =>
    dsimp only
    split
    · exact h.operationFindings method path operation
    · exact .refl _

theorem entryFindings (h : a.Within b) (entry : String × Json) :
    (a.entryFindings entry).Sublist (b.entryFindings entry) :=
  (h.pathFindings entry.1).append (h.itemFindings entry.1 entry.2)

theorem schemaFindings (h : a.Within b) (schema : String × Json) :
    (a.schemaFindings schema).Sublist (b.schemaFindings schema) := by
  rw [Options.schemaFindings, Options.schemaFindings]
  refine (List.monotone_filter_right _ ?_).map _
  rintro ⟨name, property⟩ hfound
  simp only [Bool.and_eq_true, List.any_eq_true] at hfound ⊢
  obtain ⟨⟨sensitive, hsensitive, hsame⟩, hbare⟩ := hfound
  exact ⟨⟨sensitive, h.names.subset hsensitive, hsame⟩, hbare⟩

/-- Whether there is a path at all does not depend on the options. -/
theorem pathsFindings (h : a.Within b) (root : Json) (requirePaths : Bool) :
    (a.pathsFindings root requirePaths).Sublist (b.pathsFindings root requirePaths) := by
  rw [pathsFindings_eq, pathsFindings_eq]
  exact (List.Sublist.flatMap_right _ fun entry _ => h.entryFindings entry).append_left _

/-- A document without a version is looked at no further, whatever the options are. -/
theorem findings (h : a.Within b) (root : Json) (requirePaths : Bool) :
    (a.findings root requirePaths).Sublist (b.findings root requirePaths) := by
  rw [Options.findings, Options.findings]
  cases root.get? "openapi" with
  | none => exact .refl _
  | some version =>
    have hschemas := List.Sublist.flatMap_right (schemasOf root) fun s _ => h.schemaFindings s
    exact ((h.pathsFindings root requirePaths).append_left _).append hschemas

end Options.Within

/-- Stricter options hide nothing. Where every list of the options is a part of the same list of
stricter ones, the messages about a document are a part of those that the stricter options give,
in the same order. -/
theorem lint_sublist {a b : Options} (hwithin : a.Within b) (source : String) (root : Json)
    (requirePaths : Bool) :
    (a.lint source root requirePaths).Sublist (b.lint source root requirePaths) :=
  (hwithin.findings root requirePaths).map (Finding.message source)

/-- Stricter options add a message between the others: another status is required in front of the
one that was required before. -/
theorem lint_sublist_item :
    let a : Options := { requiredStatuses := ["500"], sensitiveNames := ["token"] }
    let root : Json := .obj [("openapi", .str "3.1.0"),
      ("paths", .obj [("/v1/data", .obj [("get", .obj [("security", .arr []),
        ("responses", .obj [("200", .obj [("$ref", .str "#/components/responses/Ok")])])])])]),
      ("components", .obj [("schemas", .obj [("Login",
        .obj [("properties", .obj [("Token", .obj [])])])])])]
    a.Within .recommended ∧
    a.lint "doc" root true =
      ["doc: response 500 is required for 'get /v1/data'",
        "doc: sensitive field 'Token' in schema 'Login' must include description"] ∧
    Options.recommended.lint "doc" root true =
      ["doc: path '/v1/data' is too generic",
        "doc: response 400 is required for 'get /v1/data'",
        "doc: response 401 is required for 'get /v1/data'",
        "doc: response 500 is required for 'get /v1/data'",
        "doc: sensitive field 'Token' in schema 'Login' must include description"] ∧
    (a.lint "doc" root true).Sublist (Options.recommended.lint "doc" root true) := by
  intro a root
  have hwithin : a.Within .recommended := ⟨by decide, by decide, by decide⟩
  exact ⟨hwithin, by decide +kernel, by decide +kernel, lint_sublist hwithin "doc" root true⟩

end RouteContract.Lint
