import RouteContract.Proofs.Except
import RouteContract.Schema.Field

/-!
Where the records of a type's fields come from. Every record is given by one declared field, of the
type itself or of one that is inlined into it, and every field that is neither skipped nor inlined
gives one. A record has the text of the documenting comments on its own field, and that text is not
blank if one of them is not.
-/

namespace RouteContract

open Source

namespace Text

theorem all_isBlank_dropWhile (cs : List Char) :
    (cs.dropWhile isBlank).all isBlank = cs.all isBlank := by
  induction cs with
  | nil => rfl
  | cons c cs ih =>
    by_cases hblank : isBlank c
    · rw [List.dropWhile_cons_of_pos hblank, ih, List.all_cons, hblank, Bool.true_and]
    · rw [List.dropWhile_cons_of_neg hblank]

theorem isBlankText_trim (s : String) : isBlankText (trim s) = isBlankText s := by
  rw [isBlankText, trim, String.toList_ofList, trimChars, List.all_reverse,
    all_isBlank_dropWhile, List.all_reverse, all_isBlank_dropWhile, isBlankText]

theorem isBlankText_append (s t : String) :
    isBlankText (s ++ t) = (isBlankText s && isBlankText t) := by
  rw [isBlankText, String.toList_append, List.all_append, isBlankText, isBlankText]

/-- Joined lines are blank only if every line is. -/
theorem isBlankText_of_intercalate {lines : List String} {line : String}
    (h : isBlankText (" ".intercalate lines)) (hline : line ∈ lines) : isBlankText line := by
  induction lines with
  | nil => cases hline
  | cons first rest ih =>
    cases rest with
    | nil =>
      rw [String.intercalate_singleton] at h
      rwa [List.mem_singleton.mp hline]
    | cons second rest =>
      rw [String.intercalate_cons_of_ne_nil (List.cons_ne_nil _ _), isBlankText_append,
        Bool.and_eq_true, isBlankText_append, Bool.and_eq_true] at h
      rcases List.mem_cons.mp hline with rfl | hline
      · exact h.1.1
      · exact ih h.2 hline

end Text

/-- The line of a documenting comment, if an attribute is one. -/
def Source.Attribute.docLine? (a : Attribute Expr) : Option String :=
  match a.name, a.value with
  | some "doc", some (.literal (.text s)) => some s
  | _, _ => none

/-- Whether a field has a documenting comment with text that is not blank. -/
def Source.Field.isDocumented (field : Source.Field Expr) : Bool :=
  field.attributes.any fun a => a.docLine?.any fun line => !Text.isBlankText line

/-- A field with a documenting comment has a description that is not blank. -/
theorem exists_docText?_of_isDocumented {field : Source.Field Expr} (h : field.isDocumented) :
    ∃ text, docText? field.attributes = some text ∧ ¬ Text.isBlankText text := by
  obtain ⟨a, ha, hline⟩ := List.any_eq_true.mp h
  obtain ⟨line, hdoc, hblank⟩ := (Option.any_eq_true _ _).mp hline
  rw [← Text.isBlankText_trim, Bool.not_eq_true'] at hblank
  let lines := field.attributes.filterMap fun a =>
    match a.name, a.value with
    | some "doc", some (.literal (.text s)) => some (Text.trim s)
    | _, _ => none
  have hmem : Text.trim line ∈ lines.filter (!·.isEmpty) := by
    refine List.mem_filter.mpr ⟨List.mem_filterMap.mpr ⟨a, ha, ?_⟩, ?_⟩
    · rw [Attribute.docLine?] at hdoc
      split at hdoc
      · cases hdoc
        rfl
      · cases hdoc
    · rw [Bool.not_eq_true', ← Bool.not_eq_true]
      intro hempty
      rw [String.isEmpty_iff.mp hempty] at hblank
      cases hblank
  have htext : docText? field.attributes = some (" ".intercalate (lines.filter (!·.isEmpty))) := by
    rw [docText?]
    split
    · next hnone =>
      rw [show lines.filter (!·.isEmpty) = [] from hnone] at hmem
      cases hmem
    · rfl
  refine ⟨_, htext, fun hall => ?_⟩
  rw [Text.isBlankText_of_intercalate hall hmem] at hblank
  cases hblank

/-- The type that a field with these settings and this descriptor inlines, if it is a record. -/
def WireSettings.inlines? (own : WireSettings) (descriptor : Descriptor) : Option String :=
  if own.flatten then descriptor.referenceName? else none

namespace Source.Index

variable {index : Index} {depth : Nat} {name : String} {field : Field Expr} {f : FieldRecord}
  {decl : RecordDecl Expr} {b : Breakdown}

/-- What is asked for the fields of a type that may be inlined, at some depth. -/
def inlining (index : Index) : Nat → String → Except Breakdown (Option (List FieldRecord))
  | 0 => fun _ => pure none
  | depth + 1 => index.fieldsWithin depth

theorem fieldsWithin_of_record (h : index.lookupType? name = some (.record decl)) :
    index.fieldsWithin depth name = do
      let fields ← decl.fields.mapM
        (index.fieldRecords (index.inlining depth) (WireSettings.ofAttributes decl.attributes))
      return some fields.flatten := by
  rw [fieldsWithin.eq_def, h]
  cases depth <;> rfl

theorem fieldsWithin_of_no_record (h : ¬ ∃ decl, index.lookupType? name = some (.record decl)) :
    index.fieldsWithin depth name = .ok none := by
  rw [fieldsWithin.eq_def]
  split
  · next decl hdecl => exact absurd ⟨decl, hdecl⟩ h
  · rfl

/-- A type whose fields are known is a record of the sources. -/
theorem exists_of_fieldsWithin {fs : List FieldRecord}
    (h : index.fieldsWithin depth name = .ok (some fs)) :
    ∃ decl, index.lookupType? name = some (.record decl) ∧ ∃ rows,
      decl.fields.mapM (index.fieldRecords (index.inlining depth)
        (WireSettings.ofAttributes decl.attributes)) = .ok rows ∧ fs = rows.flatten := by
  by_cases hrecord : ∃ decl, index.lookupType? name = some (.record decl)
  · obtain ⟨decl, hdecl⟩ := hrecord
    rw [fieldsWithin_of_record hdecl] at h
    obtain ⟨rows, hrows, h⟩ := Except.bind_eq_ok h
    cases h
    exact ⟨decl, hdecl, rows, hrows, rfl⟩
  · rw [fieldsWithin_of_no_record hrecord] at h
    cases h

/-- What a field can give: nothing if it is skipped, the fields of the type that it inlines, or one
record of its own. -/
theorem fieldRecords_eq_ok {inner : String → Except Breakdown (Option (List FieldRecord))}
    {container : WireSettings} {row : List FieldRecord}
    (h : index.fieldRecords inner container field = .ok row) :
    let own := WireSettings.ofAttributes field.attributes
    own.skip = true ∧ row = [] ∨
    own.skip = false ∧ ∃ descriptor nullable,
      index.describe field.type = .ok (descriptor, nullable) ∧
      ((∃ name, own.inlines? descriptor = some name ∧ inner name = .ok (some row)) ∨
        ((∀ name, own.inlines? descriptor = some name → inner name = .ok none) ∧
          row = [fieldRecord container own field descriptor nullable])) := by
  intro own
  change (if own.skip then _ else _) = _ at h
  split at h
  · next hskip =>
    cases h
    exact Or.inl ⟨hskip, rfl⟩
  · next hskip =>
    obtain ⟨⟨descriptor, nullable⟩, hdescribe, h⟩ := Except.bind_eq_ok h
    refine Or.inr ⟨(Bool.not_eq_true _).mp hskip, descriptor, nullable, hdescribe, ?_⟩
    have hinlines : own.inlines? descriptor =
        if own.flatten then descriptor.referenceName? else none := rfl
    dsimp only at h
    split at h
    · next name hflatten hreference =>
      rw [hflatten, if_pos rfl, hreference] at hinlines
      obtain ⟨inlined, hinner, h⟩ := Except.bind_eq_ok h
      cases inlined with
      | some fields =>
        cases h
        exact Or.inl ⟨name, hinlines, hinner⟩
      | none =>
        cases h
        refine Or.inr ⟨fun other hother => ?_, rfl⟩
        rw [hinlines, Option.some.injEq] at hother
        exact hother ▸ hinner
    · next hneither =>
      cases h
      refine Or.inr ⟨fun name hname => ?_, rfl⟩
      rw [hinlines] at hname
      split at hname
      · next hflatten => exact absurd hname (hneither name hflatten)
      · cases hname

/-- A declared field gives a record of a type: as its own field, or as a field of a type that one of
its fields inlines. -/
inductive Gives (index : Index) : Nat → String → Field Expr → FieldRecord → Prop
  | own {depth : Nat} {name : String} {decl : RecordDecl Expr} {field : Field Expr}
      {descriptor : Descriptor} {nullable : Bool}
      (hdecl : index.lookupType? name = some (.record decl)) (hfield : field ∈ decl.fields)
      (hskip : (WireSettings.ofAttributes field.attributes).skip = false)
      (hdescribe : index.describe field.type = .ok (descriptor, nullable))
      (hplain : ∀ inner, (WireSettings.ofAttributes field.attributes).inlines? descriptor =
        some inner → index.inlining depth inner = .ok none) :
      Gives index depth name field (fieldRecord (WireSettings.ofAttributes decl.attributes)
        (WireSettings.ofAttributes field.attributes) field descriptor nullable)
  | inlined {depth : Nat} {name inner : String} {decl : RecordDecl Expr}
      {around field : Field Expr} {descriptor : Descriptor} {nullable : Bool} {f : FieldRecord}
      (hdecl : index.lookupType? name = some (.record decl)) (haround : around ∈ decl.fields)
      (hskip : (WireSettings.ofAttributes around.attributes).skip = false)
      (hdescribe : index.describe around.type = .ok (descriptor, nullable))
      (hinlines : (WireSettings.ofAttributes around.attributes).inlines? descriptor = some inner)
      (h : Gives index depth inner field f) : Gives index (depth + 1) name field f

theorem Gives.exists_decl (h : index.Gives depth name field f) :
    ∃ decl, index.lookupType? name = some (.record decl) := by
  cases h with
  | own hdecl => exact ⟨_, hdecl⟩
  | inlined hdecl => exact ⟨_, hdecl⟩

theorem Gives.fieldsWithin_ne_none (h : index.Gives depth name field f) :
    index.fieldsWithin depth name ≠ .ok none := by
  obtain ⟨decl, hdecl⟩ := h.exists_decl
  rw [fieldsWithin_of_record hdecl]
  intro hnone
  obtain ⟨rows, -, hsome⟩ := Except.bind_eq_ok hnone
  cases hsome

theorem Gives.description (h : index.Gives depth name field f) :
    f.description = docText? field.attributes := by
  induction h with
  | own => rfl
  | inlined _ _ _ _ _ _ ih => exact ih

theorem exists_of_inlining {fs : List FieldRecord}
    (h : index.inlining depth name = .ok (some fs)) :
    ∃ below, depth = below + 1 ∧ index.fieldsWithin below name = .ok (some fs) := by
  cases depth with
  | zero => cases h
  | succ below => exact ⟨below, rfl, h⟩

theorem exists_gives_of_mem {fs : List FieldRecord}
    (h : index.fieldsWithin depth name = .ok (some fs)) (hf : f ∈ fs) :
    ∃ field, index.Gives depth name field f := by
  induction depth using Nat.strongRecOn generalizing name fs with
  | _ depth ih =>
    obtain ⟨decl, hdecl, rows, hrows, rfl⟩ := exists_of_fieldsWithin h
    obtain ⟨row, hrow, hf⟩ := List.mem_flatten.mp hf
    obtain ⟨field, hfield, hrecords⟩ := (Except.mem_of_mapM_eq_ok hrows).2 row hrow
    rcases fieldRecords_eq_ok hrecords with ⟨-, rfl⟩ |
      ⟨hskip, descriptor, nullable, hdescribe, ⟨inner, hinlines, hinner⟩ | ⟨hplain, rfl⟩⟩
    · cases hf
    · obtain ⟨below, rfl, hinner⟩ := exists_of_inlining hinner
      obtain ⟨source, hsource⟩ := ih below (Nat.lt_succ_self below) hinner hf
      exact ⟨source, .inlined hdecl hfield hskip hdescribe hinlines hsource⟩
    · rw [List.mem_singleton.mp hf]
      exact ⟨field, .own hdecl hfield hskip hdescribe hplain⟩

theorem Gives.mem_fields {fs : List FieldRecord} (h : index.Gives depth name field f)
    (hfs : index.fieldsWithin depth name = .ok (some fs)) : f ∈ fs := by
  induction h generalizing fs with
  | @own depth name decl field descriptor nullable hdecl hfield hskip hdescribe hplain =>
    obtain ⟨decl', hdecl', rows, hrows, rfl⟩ := exists_of_fieldsWithin hfs
    obtain rfl : decl = decl' := by simpa [hdecl] using hdecl'
    obtain ⟨row, hrow, hrecords⟩ := (Except.mem_of_mapM_eq_ok hrows).1 field hfield
    refine List.mem_flatten.mpr ⟨row, hrow, ?_⟩
    rcases fieldRecords_eq_ok hrecords with ⟨hskipped, -⟩ |
      ⟨-, descriptor', nullable', hdescribe', ⟨inner, hinlines, hinner⟩ | ⟨-, rfl⟩⟩
    · rw [hskip] at hskipped
      cases hskipped
    · rw [hdescribe] at hdescribe'
      cases hdescribe'
      rw [hplain inner hinlines] at hinner
      cases hinner
    · rw [hdescribe] at hdescribe'
      cases hdescribe'
      exact List.mem_singleton_self _
  | @inlined depth name inner decl around field descriptor nullable f hdecl haround hskip hdescribe
      hinlines h ih =>
    obtain ⟨decl', hdecl', rows, hrows, rfl⟩ := exists_of_fieldsWithin hfs
    obtain rfl : decl = decl' := by simpa [hdecl] using hdecl'
    obtain ⟨row, hrow, hrecords⟩ := (Except.mem_of_mapM_eq_ok hrows).1 around haround
    refine List.mem_flatten.mpr ⟨row, hrow, ?_⟩
    rcases fieldRecords_eq_ok hrecords with ⟨hskipped, -⟩ |
      ⟨-, descriptor', nullable', hdescribe', ⟨inner', hinlines', hinner⟩ | ⟨hplain, -⟩⟩
    · rw [hskip] at hskipped
      cases hskipped
    · rw [hdescribe] at hdescribe'
      cases hdescribe'
      rw [hinlines] at hinlines'
      cases hinlines'
      exact ih hinner
    · rw [hdescribe] at hdescribe'
      cases hdescribe'
      exact absurd (hplain inner hinlines) h.fieldsWithin_ne_none

/-- The records of a type are those that declared fields give. -/
theorem mem_fieldsWithin {fs : List FieldRecord}
    (h : index.fieldsWithin depth name = .ok (some fs)) :
    f ∈ fs ↔ ∃ field, index.Gives depth name field f :=
  ⟨exists_gives_of_mem h, fun ⟨_, hgives⟩ => hgives.mem_fields h⟩

theorem fieldRecords_eq_error {inner : String → Except Breakdown (Option (List FieldRecord))}
    {container : WireSettings} (h : index.fieldRecords inner container field = .error b) :
    index.describe field.type = .error b ∨ ∃ name, inner name = .error b := by
  rw [fieldRecords] at h
  dsimp only at h
  split at h
  · cases h
  · rcases Except.bind_eq_error h with h | ⟨⟨descriptor, nullable⟩, -, h⟩
    · exact Or.inl h
    · refine Or.inr ?_
      dsimp only at h
      split at h
      · next name _ _ =>
        rcases Except.bind_eq_error h with h | ⟨inlined, -, h⟩
        · exact ⟨name, h⟩
        · cases inlined <;> cases h
      · cases h

/-- The fields of a type are not known only if the type of some field cannot be described. -/
theorem exists_of_fieldsWithin_error (h : index.fieldsWithin depth name = .error b) :
    ∃ t, index.describe t = .error b := by
  induction depth using Nat.strongRecOn generalizing name with
  | _ depth ih =>
    by_cases hrecord : ∃ decl, index.lookupType? name = some (.record decl)
    · obtain ⟨decl, hdecl⟩ := hrecord
      rw [fieldsWithin_of_record hdecl] at h
      rcases Except.bind_eq_error h with h | ⟨rows, -, h⟩
      · obtain ⟨field, -, hfield⟩ := Except.exists_of_mapM_eq_error h
        rcases fieldRecords_eq_error hfield with h | ⟨inner, hinner⟩
        · exact ⟨field.type, h⟩
        · cases depth with
          | zero => cases hinner
          | succ below => exact ih below (Nat.lt_succ_self below) hinner
      · cases h
    · rw [fieldsWithin_of_no_record hrecord] at h
      cases h

end Source.Index

end RouteContract
