import Mathlib.Tactic
import RouteContract.Proofs.Decimal.Notation
import RouteContract.Proofs.Lint.Findings
import RouteContract.Proofs.Text.Split

/-!
The policy that linting decides, said about the document and not about the way it is looked at.
Nothing is found in a document exactly if it keeps the policy: every level that may be missing or of
another kind is treated by each rule as the policy says.
-/

namespace RouteContract

namespace Json

theorem asObject?_eq_some {j : Json} {members : List (String × Json)} :
    j.asObject? = some members ↔ j = .obj members := by
  cases j <;> simp [asObject?]

theorem asText?_eq_some {j : Json} {s : String} : j.asText? = some s ↔ j = .str s := by
  cases j <;> simp [asText?]

end Json

namespace Lint

/-- The letter v in either case, and one or more digits. -/
def IsVersion (segment : String) : Prop :=
  ∃ letter digits, segment.toList = letter :: digits ∧ (letter = 'v' ∨ letter = 'V') ∧
    digits ≠ [] ∧ ∀ d ∈ digits, d.isDigit

/-- A name, possibly empty, in braces. -/
def IsParameter (segment : String) : Prop :=
  ∃ name, segment = "\x7b" ++ name ++ "\x7d"

/-- The segments are what stands between the slashes of the path and is not empty. -/
def Segments (path : String) (segments : List String) : Prop :=
  ∃ pieces, pieces ≠ [] ∧ (∀ piece ∈ pieces, '/' ∉ piece.toList) ∧ "/".intercalate pieces = path ∧
    segments = pieces.filter (· ≠ "")

/-- The small letter stands 32 places behind the capital one. -/
def IsCapitalOf (capital small : Char) : Prop :=
  'A' ≤ capital ∧ capital ≤ 'Z' ∧ small.toNat = capital.toNat + 32

/-- The names are alike, character by character, up to the case of the letters from a to z. -/
def SameName (a b : String) : Prop :=
  List.Forall₂ (fun c d => c = d ∨ IsCapitalOf c d ∨ IsCapitalOf d c) a.toList b.toList

/-- The path has a version. Behind the first one nothing follows, or else something that is no
parameter, and nothing that is denied. -/
def PathAllowed (o : Options) (path : String) : Prop :=
  ∃ before version rest, Segments path (before ++ version :: rest) ∧ IsVersion version ∧
    (∀ s ∈ before, ¬ IsVersion s) ∧
    (rest = [] ∨ (∃ s ∈ rest, ¬ IsParameter s) ∧
      ∀ s ∈ rest, ∀ denied ∈ o.genericSegments, ¬ SameName denied s)

/-- The content is an object, and those of its entries that are objects have a schema. -/
def HasSchemas (container : Json) : Prop :=
  ∃ content, container.get? "content" = some (.obj content) ∧
    ∀ media ∈ content, media.2.isObject → (media.2.get? "schema").isSome

structure OperationAllowed (o : Options) (operation : Json) : Prop where
  security : ∃ requirements, operation.get? "security" = some (.arr requirements) ∧
    (requirements = [] ∨ ∃ r ∈ requirements,
      (r.get? "JwtBearer").isSome ∨ (r.get? "OAuth2").isSome)
  responses : ∃ responses, operation.get? "responses" = some (.obj responses) ∧ responses ≠ [] ∧
    (∀ status ∈ o.requiredStatuses, status ∈ responses.map (·.1)) ∧
    ∀ r ∈ responses, r.2.isObject → r.2.get? "$ref" = none → HasSchemas r.2
  body : ∀ members, operation.get? "requestBody" = some (.obj members) → HasSchemas (.obj members)

/-- The document keeps the policy of the options. -/
structure Conforms (o : Options) (root : Json) (requirePaths : Bool) : Prop where
  version : root.get? "openapi" = some (.str "3.1.0")
  hasPaths : requirePaths → ∃ paths, root.get? "paths" = some (.obj paths) ∧ paths ≠ []
  paths : ∀ paths, root.get? "paths" = some (.obj paths) → ∀ entry ∈ paths, PathAllowed o entry.1
  operations : ∀ paths, root.get? "paths" = some (.obj paths) → ∀ entry ∈ paths,
    ∀ method ∈ ["get", "post", "put", "patch", "delete", "options", "head"],
    ∀ members, entry.2.get? method = some (.obj members) → OperationAllowed o (.obj members)
  described : ∀ components, root.get? "components" = some components →
    ∀ schemas, components.get? "schemas" = some (.obj schemas) → ∀ schema ∈ schemas,
    ∀ properties, schema.2.get? "properties" = some (.obj properties) → ∀ property ∈ properties,
    (∃ name ∈ o.sensitiveNames, SameName name property.1) →
    ∃ text, property.2.get? "description" = some (.str text) ∧ ∃ c ∈ text.toList, ¬ Text.isBlank c

theorem toNat_toLower (c : Char) :
    c.toLower.toNat = if 'A' ≤ c ∧ c ≤ 'Z' then c.toNat + 32 else c.toNat := by
  have hletter : 'A' ≤ c ∧ c ≤ 'Z' ↔ c.val ≥ 'A'.val ∧ c.val ≤ 'Z'.val := Iff.rfl
  by_cases hcapital : c.val ≥ 'A'.val ∧ c.val ≤ 'Z'.val
  · have hlower : c.toLower.toNat = (c.val + 32).toNat := congrArg Char.toNat (dif_pos hcapital)
    rw [if_pos (hletter.mpr hcapital), hlower]
    have hbound : c.toNat ≤ 90 := UInt32.le_iff_toNat_le.mp hcapital.2
    refine (UInt32.toNat_add c.val 32).trans (Nat.mod_eq_of_lt ?_)
    change c.toNat + 32 < 2 ^ 32
    omega
  · have hlower : c.toLower = c := dif_neg hcapital
    rw [if_neg (mt hletter.mp hcapital), hlower]

theorem toLower_eq_iff (c d : Char) :
    c.toLower = d.toLower ↔ c = d ∨ IsCapitalOf c d ∨ IsCapitalOf d c := by
  have hle (c d : Char) : c ≤ d ↔ c.toNat ≤ d.toNat := UInt32.le_iff_toNat_le
  simp only [← Char.toNat_inj, toNat_toLower, IsCapitalOf, hle]
  have hA : 'A'.toNat = 65 := rfl
  have hZ : 'Z'.toNat = 90 := rfl
  rw [hA, hZ]
  split <;> split <;> omega

theorem sameIgnoringCase_iff (a b : String) : Text.sameIgnoringCase a b ↔ SameName a b := by
  rw [Text.sameIgnoringCase, beq_iff_eq, SameName, ← List.forall₂_eq_eq_eq,
    List.forall₂_map_left_iff, List.forall₂_map_right_iff]
  simp only [toLower_eq_iff]

theorem isVersionSegment_iff (segment : String) : isVersionSegment segment ↔ IsVersion segment := by
  unfold isVersionSegment IsVersion
  cases segment.toList with
  | nil => simp
  | cons c rest => simp [and_assoc]

theorem isPlaceholder_iff (segment : String) : isPlaceholder segment ↔ IsParameter segment := by
  have hchars : IsParameter segment ↔
      ∃ name, segment.toList = '\x7b' :: (name ++ ['\x7d']) := by
    constructor
    · rintro ⟨name, rfl⟩
      exact ⟨name.toList, by simp⟩
    · rintro ⟨name, hname⟩
      refine ⟨String.ofList name, ?_⟩
      apply String.toList_inj.mp
      simp [hname]
  simp only [hchars, isPlaceholder, Bool.and_eq_true, Option.any_eq_true, beq_iff_eq]
  constructor
  · rintro ⟨⟨first, hfirst, hopen⟩, last, hlast, hclose⟩
    obtain ⟨rest, hrest⟩ := List.head?_eq_some_iff.mp hfirst
    obtain ⟨front, hfront⟩ := List.getLast?_eq_some_iff.mp hlast
    have hlast : last = '\x7d' := Char.toNat_inj.mp hclose
    have hfirst : first = '\x7b' := Char.toNat_inj.mp hopen
    subst hlast hfirst
    cases front with
    | nil =>
        -- One character cannot be both braces.
        rw [hrest] at hfront
        simp at hfront
    | cons c name =>
        rw [hrest, List.cons_append, List.cons.injEq] at hfront
        exact ⟨name, by rw [hrest, hfront.2]⟩
  · rintro ⟨name, hname⟩
    have hlast := List.getLast?_eq_some_iff.mpr ⟨'\x7b' :: name, hname⟩
    rw [hlast, hname]
    exact ⟨⟨_, rfl, rfl⟩, _, rfl, rfl⟩

theorem segments_iff (path : String) (found : List String) :
    Segments path found ↔ found = segments path := by
  have hsplit := Text.eq_split_iff '/' path
  have hfilter : (fun s : String => decide (s ≠ "")) = fun s => !s.isEmpty := by
    funext s
    rw [decide_not, Bool.eq_iff_iff]
    simp
  constructor
  · rintro ⟨pieces, hne, hslash, hjoin, rfl⟩
    have hpieces := (hsplit pieces).mpr ⟨hne, hslash, hjoin⟩
    rw [hpieces, hfilter, segments]
  · rintro rfl
    obtain ⟨hne, hslash, hjoin⟩ := (hsplit (Text.split '/' path)).mp rfl
    refine ⟨_, hne, hslash, hjoin, ?_⟩
    rw [hfilter, segments]

/-- The rest behind the first version, if there is one. -/
theorem afterVersion?_eq_some {path : String} {rest : List String} :
    afterVersion? path = some rest ↔ ∃ before version,
      Segments path (before ++ version :: rest) ∧ IsVersion version ∧
        ∀ s ∈ before, ¬ IsVersion s := by
  simp only [segments_iff, ← isVersionSegment_iff]
  unfold afterVersion?
  constructor
  · intro h
    have hparts := List.takeWhile_append_dropWhile (p := fun s => !isVersionSegment s)
      (l := segments path)
    have hhead := List.head?_dropWhile_not (fun s => !isVersionSegment s) (segments path)
    cases hdrop : (segments path).dropWhile fun s => !isVersionSegment s with
    | nil => simp [hdrop] at h
    | cons version found =>
        simp only [hdrop, Option.some.injEq] at h
        subst h
        rw [hdrop] at hparts hhead
        refine ⟨_, version, hparts, by simpa using hhead, ?_⟩
        intro s hs
        simpa using List.all_eq_true.mp List.all_takeWhile s hs
  · rintro ⟨before, version, hsegments, hversion, hbefore⟩
    have hdrop : (segments path).dropWhile (fun s => !isVersionSegment s) = version :: rest := by
      rw [← hsegments, List.dropWhile_append_of_pos (by simpa using hbefore)]
      simp [hversion]
    rw [hdrop]

theorem isTooGeneric_eq_false (o : Options) (rest : List String) :
    o.isTooGeneric rest = false ↔ rest = [] ∨ (∃ s ∈ rest, ¬ IsParameter s) ∧
      ∀ s ∈ rest, ∀ denied ∈ o.genericSegments, ¬ SameName denied s := by
  have hparameters : rest.all isPlaceholder = false ↔ ∃ s ∈ rest, ¬ IsParameter s := by
    simp [← isPlaceholder_iff]
  have hdenied : (rest.any fun s => o.genericSegments.any (Text.sameIgnoringCase · s)) = false ↔
      ∀ s ∈ rest, ∀ denied ∈ o.genericSegments, ¬ SameName denied s := by
    simp [← sameIgnoringCase_iff]
  rw [Options.isTooGeneric, Bool.and_eq_false_iff, Bool.or_eq_false_iff, hparameters, hdenied,
    Bool.not_eq_false', List.isEmpty_iff]

theorem pathFindings_eq_nil (o : Options) (path : String) :
    o.pathFindings path = [] ↔ PathAllowed o path := by
  have hallowed : PathAllowed o path ↔
      ∃ rest, afterVersion? path = some rest ∧ o.isTooGeneric rest = false := by
    simp only [PathAllowed, afterVersion?_eq_some, isTooGeneric_eq_false]
    constructor
    · rintro ⟨before, version, rest, hsegments, hversion, hbefore, hrest⟩
      exact ⟨rest, ⟨before, version, hsegments, hversion, hbefore⟩, hrest⟩
    · rintro ⟨rest, ⟨before, version, hsegments, hversion, hbefore⟩, hrest⟩
      exact ⟨before, version, rest, hsegments, hversion, hbefore, hrest⟩
  rw [hallowed, Options.pathFindings]
  cases afterVersion? path with
  | none => simp
  | some rest => simp

theorem isAccepted_iff (requirement : Json) : isAccepted requirement ↔
    (requirement.get? "JwtBearer").isSome ∨ (requirement.get? "OAuth2").isSome := by
  simp [isAccepted, acceptedSchemes]

theorem securityFindings_eq_nil (place : Place) (operation : Json) :
    securityFindings place operation = [] ↔
      ∃ requirements, operation.get? "security" = some (.arr requirements) ∧
        (requirements = [] ∨ ∃ r ∈ requirements,
          (r.get? "JwtBearer").isSome ∨ (r.get? "OAuth2").isSome) := by
  rw [securityFindings]
  cases hsecurity : operation.get? "security" with
  | none => simp
  | some security =>
      cases security with
      | arr requirements =>
          simp only [Option.bind_some, Json.asArray?, ite_eq_left_iff, reduceCtorEq, imp_false,
            not_not, Bool.or_eq_true, List.isEmpty_iff, List.any_eq_true, isAccepted_iff,
            Option.some.injEq, Json.arr.injEq, exists_eq_left']
      | _ => simp [Json.asArray?]

theorem contentFindings_eq_nil (place : Place) (container : Json) :
    contentFindings place container = [] ↔ HasSchemas container := by
  rw [contentFindings, HasSchemas]
  cases hcontent : container.get? "content" with
  | none => simp
  | some content =>
      cases content with
      | obj content => simp [Json.asObject?, Option.isSome_iff_ne_none]
      | _ => simp [Json.asObject?]

theorem bodyFindings_eq_nil (place : Place) (operation : Json) :
    bodyFindings place operation = [] ↔ ∀ members,
      operation.get? "requestBody" = some (.obj members) → HasSchemas (.obj members) := by
  rw [bodyFindings]
  cases hbody : operation.get? "requestBody" with
  | none => simp
  | some body =>
      cases body with
      | obj members => simp [Json.isObject, contentFindings_eq_nil]
      | _ => simp [Json.isObject]

theorem responseFindings_eq_nil (method path : String) (response : String × Json) :
    responseFindings method path response = [] ↔
      (response.2.isObject → response.2.get? "$ref" = none → HasSchemas response.2) := by
  rw [responseFindings]
  split
  · next hlooked =>
    simp only [Bool.and_eq_true, Option.isNone_iff_eq_none] at hlooked
    simp [contentFindings_eq_nil, hlooked]
  · next hskipped =>
    simp only [Bool.and_eq_true, Option.isNone_iff_eq_none] at hskipped
    simp only [true_iff]
    intro hobject href
    exact absurd ⟨hobject, href⟩ hskipped

theorem responsesOf_eq_of_get? {operation : Json} {responses : List (String × Json)}
    (hget : operation.get? "responses" = some (.obj responses)) :
    responsesOf operation = responses := by
  rw [responsesOf, hget]
  rfl

theorem responsesFindings_eq_nil (o : Options) (method path : String) (operation : Json) :
    (o.statusFindings (.operation method path) operation = [] ∧
      (responsesOf operation).flatMap (responseFindings method path) = []) ↔
      ∃ responses, operation.get? "responses" = some (.obj responses) ∧ responses ≠ [] ∧
        (∀ status ∈ o.requiredStatuses, status ∈ responses.map (·.1)) ∧
        ∀ r ∈ responses, r.2.isObject → r.2.get? "$ref" = none → HasSchemas r.2 := by
  have hnone (h : responsesOf operation = []) :
      o.statusFindings (.operation method path) operation ≠ [] := by
    simp [Options.statusFindings, h]
  have hsome (responses : List (String × Json)) (hne : responses ≠ [])
      (h : responsesOf operation = responses) :
      o.statusFindings (.operation method path) operation = [] ↔
        ∀ status ∈ o.requiredStatuses, status ∈ responses.map (·.1) := by
    have hempty : responses.isEmpty = false := by simpa using hne
    rw [Options.statusFindings, h, hempty, if_neg Bool.false_ne_true, List.map_eq_nil_iff,
      List.filter_eq_nil_iff]
    simp only [← Table.lookup_isSome_iff, Bool.not_eq_true, Option.isNone_eq_false_iff]
  have hlooked : (responsesOf operation).flatMap (responseFindings method path) = [] ↔
      ∀ r ∈ responsesOf operation, r.2.isObject → r.2.get? "$ref" = none → HasSchemas r.2 := by
    simp only [List.flatMap_eq_nil_iff, responseFindings_eq_nil]
  constructor
  · rintro ⟨hstatus, hresponses⟩
    cases hvalue : (operation.get? "responses").bind Json.asObject? with
    | none =>
        have hof : responsesOf operation = [] := by
          rw [responsesOf, hvalue]
          rfl
        exact absurd hstatus (hnone hof)
    | some responses =>
        obtain ⟨value, hget, hobject⟩ := Option.bind_eq_some_iff.mp hvalue
        rw [Json.asObject?_eq_some.mp hobject] at hget
        have hof := responsesOf_eq_of_get? hget
        have hne : responses ≠ [] := by
          rintro rfl
          exact hnone hof hstatus
        refine ⟨responses, hget, hne, (hsome responses hne hof).mp hstatus, ?_⟩
        rw [← hof]
        exact hlooked.mp hresponses
  · rintro ⟨responses, hget, hne, hstatuses, hschemas⟩
    have hof := responsesOf_eq_of_get? hget
    refine ⟨(hsome responses hne hof).mpr hstatuses, hlooked.mpr ?_⟩
    rw [hof]
    exact hschemas

theorem operationFindings_eq_nil (o : Options) (method path : String) (operation : Json) :
    o.operationFindings method path operation = [] ↔ OperationAllowed o operation := by
  have hsecurity := securityFindings_eq_nil (.operation method path) operation
  have hresponses := responsesFindings_eq_nil o method path operation
  have hbody := bodyFindings_eq_nil (.operation method path) operation
  simp only [Options.operationFindings, List.append_eq_nil_iff]
  constructor
  · rintro ⟨⟨⟨hsecure, hstatus⟩, hrequest⟩, hlooked⟩
    exact ⟨hsecurity.mp hsecure, hresponses.mp ⟨hstatus, hlooked⟩, hbody.mp hrequest⟩
  · rintro ⟨hsecure, hanswers, hrequest⟩
    obtain ⟨hstatus, hlooked⟩ := hresponses.mpr hanswers
    exact ⟨⟨⟨hsecurity.mpr hsecure, hstatus⟩, hbody.mpr hrequest⟩, hlooked⟩

theorem itemFindings_eq_nil (o : Options) (path : String) (item : Json) :
    o.itemFindings path item = [] ↔
      ∀ method ∈ ["get", "post", "put", "patch", "delete", "options", "head"],
        ∀ members, item.get? method = some (.obj members) → OperationAllowed o (.obj members) := by
  rw [Options.itemFindings, List.flatMap_eq_nil_iff]
  refine forall₂_congr ?_
  intro method _
  cases hget : item.get? method with
  | none => simp
  | some operation =>
      cases operation with
      | obj members => simp [Json.isObject, operationFindings_eq_nil]
      | _ => simp [Json.isObject]

/-- Only the text itself passes: no other value is written like it. -/
theorem versionFindings_eq_nil (version : Json) :
    versionFindings version = [] ↔ version = .str "3.1.0" := by
  simp only [versionFindings, formatVersion, ite_eq_left_iff, reduceCtorEq, imp_false, not_not,
    beq_iff_eq]
  cases htext : version.asText? with
  | none =>
      refine iff_of_false (Json.compact_ne_formatVersion htext) ?_
      rintro rfl
      cases htext
  | some text =>
      rw [Json.asText?_eq_some.mp htext, Option.getD_some, Json.str.injEq]

theorem not_isBlankText_iff (text : String) :
    ¬ Text.isBlankText text ↔ ∃ c ∈ text.toList, ¬ Text.isBlank c := by
  simp [Text.isBlankText]

theorem isDescribed_iff (property : Json) : isDescribed property ↔
    ∃ text, property.get? "description" = some (.str text) ∧ ¬ Text.isBlankText text := by
  rw [isDescribed]
  cases property.get? "description" with
  | none => simp
  | some description => cases description <;> simp [Json.asText?]

theorem schemaFindings_eq_nil (o : Options) (schema : String × Json) :
    o.schemaFindings schema = [] ↔ ∀ properties,
      schema.2.get? "properties" = some (.obj properties) → ∀ property ∈ properties,
      (∃ name ∈ o.sensitiveNames, SameName name property.1) →
      ∃ text, property.2.get? "description" = some (.str text) ∧
        ∃ c ∈ text.toList, ¬ Text.isBlank c := by
  simp only [← not_isBlankText_iff, ← isDescribed_iff, ← sameIgnoringCase_iff]
  rw [Options.schemaFindings]
  cases schema.2.get? "properties" with
  | none => simp
  | some properties =>
      cases properties with
      | obj properties => simp [Json.asObject?]
      | _ => simp [Json.asObject?]

theorem forall_mem_pathsOf (root : Json) (P : String × Json → Prop) :
    (∀ entry ∈ pathsOf root, P entry) ↔
      ∀ paths, root.get? "paths" = some (.obj paths) → ∀ entry ∈ paths, P entry := by
  rw [pathsOf]
  cases root.get? "paths" with
  | none => simp
  | some paths => cases paths <;> simp [Json.asObject?]

theorem pathsOf_ne_nil (root : Json) : pathsOf root ≠ [] ↔
    ∃ paths, root.get? "paths" = some (.obj paths) ∧ paths ≠ [] := by
  rw [pathsOf]
  cases root.get? "paths" with
  | none => simp
  | some paths => cases paths <;> simp [Json.asObject?]

theorem forall_mem_schemasOf (root : Json) (P : String × Json → Prop) :
    (∀ schema ∈ schemasOf root, P schema) ↔
      ∀ components, root.get? "components" = some components →
        ∀ schemas, components.get? "schemas" = some (.obj schemas) → ∀ schema ∈ schemas,
          P schema := by
  rw [schemasOf]
  cases root.get? "components" with
  | none => simp
  | some components =>
      cases hschemas : components.get? "schemas" with
      | none => simp [hschemas]
      | some schemas => cases schemas <;> simp [hschemas, Json.asObject?]

theorem pathsFindings_eq_nil (o : Options) (root : Json) (requirePaths : Bool) :
    o.pathsFindings root requirePaths = [] ↔ (requirePaths → pathsOf root ≠ []) ∧
      ∀ entry ∈ pathsOf root,
        o.pathFindings entry.1 = [] ∧ o.itemFindings entry.1 entry.2 = [] := by
  rw [pathsFindings_eq, List.append_eq_nil_iff, List.flatMap_eq_nil_iff]
  simp only [Options.entryFindings, List.append_eq_nil_iff]
  refine and_congr_left ?_
  intro _
  cases requirePaths <;> simp

theorem findings_eq_nil (o : Options) (root : Json) (requirePaths : Bool) :
    o.findings root requirePaths = [] ↔
      root.get? "openapi" = some (.str "3.1.0") ∧ o.pathsFindings root requirePaths = [] ∧
        ∀ schema ∈ schemasOf root, o.schemaFindings schema = [] := by
  rw [Options.findings]
  cases root.get? "openapi" with
  | none => simp
  | some version =>
      simp only [List.append_eq_nil_iff, versionFindings_eq_nil, List.flatMap_eq_nil_iff,
        Option.some.injEq, and_assoc]

/-- Linting decides the policy: whatever the document is, the rules object to nothing exactly if it
conforms. -/
theorem lint_eq_nil_iff_conforms (o : Options) (source : String) (root : Json)
    (requirePaths : Bool) :
    o.lint source root requirePaths = [] ↔ Conforms o root requirePaths := by
  have hschemas := forall_mem_schemasOf root fun schema => o.schemaFindings schema = []
  have hpaths := forall_mem_pathsOf root fun entry => o.pathFindings entry.1 = []
  have hitems := forall_mem_pathsOf root fun entry => o.itemFindings entry.1 entry.2 = []
  simp only [schemaFindings_eq_nil] at hschemas
  simp only [pathFindings_eq_nil] at hpaths
  simp only [itemFindings_eq_nil] at hitems
  rw [lint_eq_nil_iff, findings_eq_nil, pathsFindings_eq_nil, pathsOf_ne_nil]
  simp only [pathFindings_eq_nil, itemFindings_eq_nil, schemaFindings_eq_nil, forall_and]
  rw [hpaths, hitems, hschemas]
  constructor
  · rintro ⟨hversion, ⟨hsome, hallowed, hoperations⟩, hdescribed⟩
    exact ⟨hversion, hsome, hallowed, hoperations, hdescribed⟩
  · rintro ⟨hversion, hsome, hallowed, hoperations, hdescribed⟩
    exact ⟨hversion, ⟨hsome, hallowed, hoperations⟩, hdescribed⟩

end Lint

end RouteContract
