import Mathlib.Data.List.Chain
import RouteContract.Proofs.Schema.Description
import RouteContract.Proofs.Schema.Fields

/-!
Flattened fields written out. What a flattened field stands for is given here without a depth, as a
relation: field by field in the order of their declaration, a field that refers to a record of the
sources stands for everything that this record has, and every other field for one record, whose name
and default are settled by the field and by the type that declares it. The fields that are found for
a type are exactly these as long as flattened fields nest at most eight deep. Deeper nesting, and
nesting without an end, is cut off, so that an answer is always found.
-/

namespace RouteContract.Source.Index

variable {index : Index} {depth : Nat} {name : String} {field : Field Expr}
  {decl inner : RecordDecl Expr} {fields : List (Field Expr)} {fs : List FieldRecord}

/-- A flattened field stands for a record of the sources. Its descriptor is looked through. -/
def StandsFor (index : Index) (field : Field Expr) (inner : RecordDecl Expr) : Prop :=
  let own := WireSettings.ofAttributes field.attributes
  own.skip = false ∧ own.flatten = true ∧ ∃ descriptor nullable name,
    index.describe field.type = .ok (descriptor, nullable) ∧
    descriptor.referenceName? = some name ∧ index.lookupType? name = some (.record inner)

/-- The record that a field gives by itself. Only the field and the type `decl` that declares it
have a say in its name on the wire and in its default. -/
structure IsRecordOf (index : Index) (decl : RecordDecl Expr) (field : Field Expr)
    (f : FieldRecord) : Prop where
  sourceName : f.sourceName = plainName field.name
  renamed : ∀ name, (WireSettings.ofAttributes field.attributes).rename = some name →
    f.wireName = name
  byRule : (WireSettings.ofAttributes field.attributes).rename = none →
    f.wireName = (renameBy? (WireSettings.ofAttributes decl.attributes).renameAll
      f.sourceName).getD f.sourceName
  type : index.describe field.type = .ok (f.descriptor, f.nullable)
  hasDefault : f.hasDefault = true ↔ (WireSettings.ofAttributes field.attributes).default = true ∨
    (WireSettings.ofAttributes decl.attributes).default = true
  description : f.description = docText? field.attributes
  unknownRule : f.unknownRule =
    if (WireSettings.ofAttributes field.attributes).rename = none ∧
      renameBy? (WireSettings.ofAttributes decl.attributes).renameAll f.sourceName = none
    then (WireSettings.ofAttributes decl.attributes).renameAll else none

/-- Fields of a type in full: flattened fields are written out, however deep they nest. -/
inductive InFull (index : Index) : RecordDecl Expr → List (Field Expr) → List FieldRecord → Prop
  | nil {decl : RecordDecl Expr} : InFull index decl [] []
  | skipped {decl : RecordDecl Expr} {field : Field Expr} {fields : List (Field Expr)}
      {fs : List FieldRecord} (hskip : (WireSettings.ofAttributes field.attributes).skip = true)
      (hrest : InFull index decl fields fs) : InFull index decl (field :: fields) fs
  | flattened {decl inner : RecordDecl Expr} {field : Field Expr} {fields : List (Field Expr)}
      {gs fs : List FieldRecord} (hstands : index.StandsFor field inner)
      (hinner : InFull index inner inner.fields gs) (hrest : InFull index decl fields fs) :
      InFull index decl (field :: fields) (gs ++ fs)
  | own {decl : RecordDecl Expr} {field : Field Expr} {fields : List (Field Expr)}
      {f : FieldRecord} {fs : List FieldRecord}
      (hskip : (WireSettings.ofAttributes field.attributes).skip = false)
      (hown : ∀ inner, ¬ index.StandsFor field inner) (hrecord : index.IsRecordOf decl field f)
      (hrest : InFull index decl fields fs) : InFull index decl (field :: fields) (f :: fs)

/-- A record is flattened into another one. -/
def FlattenedInto (index : Index) (inner decl : RecordDecl Expr) : Prop :=
  ∃ field ∈ decl.fields, index.StandsFor field inner

/-- Flattened fields nest at most so deep. -/
def NestsWithin (index : Index) (depth : Nat) (decl : RecordDecl Expr) : Prop :=
  ∀ chain, List.IsChain (fun outer inner => index.FlattenedInto inner outer) (decl :: chain) →
    chain.length ≤ depth

theorem NestsWithin.below (h : index.NestsWithin depth decl)
    (hinto : index.FlattenedInto inner decl) :
    ∃ below, depth = below + 1 ∧ index.NestsWithin below inner := by
  have hone : 1 ≤ depth := h [inner] (List.isChain_cons_cons.mpr ⟨hinto, .singleton inner⟩)
  refine ⟨depth - 1, by omega, fun chain hchain => ?_⟩
  have hlonger : (inner :: chain).length ≤ depth :=
    h (inner :: chain) (List.isChain_cons_cons.mpr ⟨hinto, hchain⟩)
  rw [List.length_cons] at hlonger
  omega

theorem nestsWithin_of_forall
    (h : ∀ inner, index.FlattenedInto inner decl → index.NestsWithin depth inner) :
    index.NestsWithin (depth + 1) decl := by
  intro chain hchain
  cases chain with
  | nil => exact Nat.zero_le _
  | cons inner chain =>
    obtain ⟨hinto, hchain⟩ := List.isChain_cons_cons.mp hchain
    exact Nat.succ_le_succ (h inner hinto chain hchain)

theorem isRecordOf_iff {f : FieldRecord} :
    index.IsRecordOf decl field f ↔ ∃ descriptor nullable,
      index.describe field.type = .ok (descriptor, nullable) ∧
      f = fieldRecord (WireSettings.ofAttributes decl.attributes)
        (WireSettings.ofAttributes field.attributes) field descriptor nullable := by
  constructor
  · intro h
    refine ⟨f.descriptor, f.nullable, h.type, ?_⟩
    have hwire : f.wireName = (WireSettings.ofAttributes field.attributes).rename.getD
        ((renameBy? (WireSettings.ofAttributes decl.attributes).renameAll
          (plainName field.name)).getD (plainName field.name)) := by
      cases hrename : (WireSettings.ofAttributes field.attributes).rename with
      | some other => exact h.renamed other hrename
      | none => exact h.sourceName ▸ h.byRule hrename
    have hrule := h.sourceName ▸ h.unknownRule
    have hdefault := h.hasDefault
    rw [← Bool.or_eq_true, ← Bool.eq_iff_iff] at hdefault
    cases f
    simp only [fieldRecord, FieldRecord.mk.injEq]
    exact ⟨h.sourceName, hwire, trivial, trivial, hdefault, h.description, by simpa using hrule⟩
  · rintro ⟨descriptor, nullable, hdescribe, rfl⟩
    refine ⟨rfl, fun name h => ?_, fun h => ?_, hdescribe, ?_, rfl, ?_⟩
    · simp [fieldRecord, h]
    · simp [fieldRecord, h]
    · simp [fieldRecord]
    · simp [fieldRecord]

theorem StandsFor.inlines? {descriptor : Descriptor} {nullable : Bool}
    (h : index.StandsFor field inner)
    (hdescribe : index.describe field.type = .ok (descriptor, nullable)) :
    ∃ name, (WireSettings.ofAttributes field.attributes).inlines? descriptor = some name ∧
      index.lookupType? name = some (.record inner) := by
  obtain ⟨-, hflatten, descriptor', nullable', name, hdescribe', hname, hinner⟩ := h
  rw [hdescribe] at hdescribe'
  cases hdescribe'
  exact ⟨name, by rw [WireSettings.inlines?, if_pos hflatten, hname], hinner⟩

theorem standsFor_of_inlines? {descriptor : Descriptor} {nullable : Bool}
    (hskip : (WireSettings.ofAttributes field.attributes).skip = false)
    (hdescribe : index.describe field.type = .ok (descriptor, nullable))
    (hinlines : (WireSettings.ofAttributes field.attributes).inlines? descriptor = some name)
    (hinner : index.lookupType? name = some (.record inner)) : index.StandsFor field inner := by
  rw [WireSettings.inlines?] at hinlines
  split at hinlines
  · next hflatten => exact ⟨hskip, hflatten, _, _, _, hdescribe, hinlines, hinner⟩
  · cases hinlines

/-- A field that is not skipped and whose type can be described gives the fields that it is answered
for the type that it inlines, and otherwise a record of its own. -/
theorem fieldRecords_of_describe {answer : String → Except Breakdown (Option (List FieldRecord))}
    {container : WireSettings} {descriptor : Descriptor} {nullable : Bool}
    (inlined : Option (List FieldRecord))
    (hskip : (WireSettings.ofAttributes field.attributes).skip = false)
    (hdescribe : index.describe field.type = .ok (descriptor, nullable))
    (hinlined : (match (WireSettings.ofAttributes field.attributes).inlines? descriptor with
      | some name => answer name
      | none => .ok none) = .ok inlined) :
    index.fieldRecords answer container field = .ok (inlined.getD
      [fieldRecord container (WireSettings.ofAttributes field.attributes) field descriptor
        nullable]) := by
  rw [fieldRecords, hskip, hdescribe]
  simp only [Bool.false_eq_true, if_false, bind, Except.bind]
  split
  · next name hflatten hname =>
    rw [WireSettings.inlines?, hflatten, if_pos rfl, hname] at hinlined
    change answer name = .ok inlined at hinlined
    rw [hinlined]
    cases inlined <;> rfl
  · next hneither =>
    have hnone : (WireSettings.ofAttributes field.attributes).inlines? descriptor = none := by
      rw [WireSettings.inlines?]
      split
      · next hflatten =>
        exact Option.eq_none_iff_forall_ne_some.mpr fun name => hneither name hflatten
      · rfl
    rw [hnone] at hinlined
    cases hinlined
    rfl

/-- What is found for some fields of a type, with records inlined down to a depth. -/
def rowsWithin (index : Index) (depth : Nat) (decl : RecordDecl Expr) (fields : List (Field Expr)) :
    Except Breakdown (List FieldRecord) :=
  List.flatten <$> fields.mapM
    (index.fieldRecords (index.inlining depth) (WireSettings.ofAttributes decl.attributes))

theorem fieldsWithin_eq_ok_iff (hdecl : index.lookupType? name = some (.record decl)) :
    index.fieldsWithin depth name = .ok (some fs) ↔
      index.rowsWithin depth decl decl.fields = .ok fs := by
  rw [fieldsWithin_of_record hdecl, rowsWithin]
  cases decl.fields.mapM (index.fieldRecords (index.inlining depth)
    (WireSettings.ofAttributes decl.attributes)) with
  | error reason => exact ⟨nofun, nofun⟩
  | ok rows =>
    constructor
    · intro h
      cases h
      rfl
    · intro h
      cases h
      rfl

theorem rowsWithin_cons_eq_ok_iff :
    index.rowsWithin depth decl (field :: fields) = .ok fs ↔ ∃ row rest,
      index.fieldRecords (index.inlining depth) (WireSettings.ofAttributes decl.attributes) field =
        .ok row ∧ index.rowsWithin depth decl fields = .ok rest ∧ fs = row ++ rest := by
  rw [rowsWithin, List.mapM_cons, rowsWithin]
  constructor
  · intro h
    obtain ⟨rows, hrows, h⟩ := Except.map_eq_ok h
    obtain ⟨row, hrow, hrows⟩ := Except.bind_eq_ok hrows
    obtain ⟨rest, hrest, hrows⟩ := Except.bind_eq_ok hrows
    cases hrows
    exact ⟨row, rest.flatten, hrow, by rw [hrest]; rfl, h.symm⟩
  · rintro ⟨row, rest, hrow, hrest, rfl⟩
    obtain ⟨rows, hrows, rfl⟩ := Except.map_eq_ok hrest
    rw [hrow, hrows]
    rfl

/-- What is found is the fields in full, if the depth is not reached. -/
theorem inFull_of_rowsWithin (hnests : index.NestsWithin depth decl)
    (hfields : fields ⊆ decl.fields) (h : index.rowsWithin depth decl fields = .ok fs) :
    index.InFull decl fields fs := by
  induction depth using Nat.strongRecOn generalizing decl fields fs with
  | _ depth ih =>
    induction fields generalizing fs with
    | nil =>
      cases h
      exact .nil
    | cons field fields ihfields =>
      obtain ⟨row, rest, hrow, hrest, rfl⟩ := rowsWithin_cons_eq_ok_iff.mp h
      have hfield : field ∈ decl.fields := hfields List.mem_cons_self
      have hfull := ihfields (fun _ hmem => hfields (List.mem_cons_of_mem _ hmem)) hrest
      rcases fieldRecords_eq_ok hrow with ⟨hskip, rfl⟩ |
        ⟨hskip, descriptor, nullable, hdescribe, ⟨name, hinlines, hinner⟩ | ⟨hplain, rfl⟩⟩
      · exact .skipped hskip hfull
      · -- The record that is inlined was looked up one level below.
        obtain ⟨below, rfl, hinner⟩ := exists_of_inlining hinner
        obtain ⟨inner, hlookup, -⟩ := exists_of_fieldsWithin hinner
        have hstands := standsFor_of_inlines? hskip hdescribe hinlines hlookup
        obtain ⟨_, hbelow, hnested⟩ := hnests.below ⟨field, hfield, hstands⟩
        cases hbelow
        have hrows := (fieldsWithin_eq_ok_iff hlookup).mp hinner
        have hwritten := ih below (Nat.lt_succ_self below) hnested (fun _ => id) hrows
        exact .flattened hstands hwritten hfull
      · refine .own hskip (fun inner hstands => ?_)
          (isRecordOf_iff.mpr ⟨descriptor, nullable, hdescribe, rfl⟩) hfull
        obtain ⟨name, hinlines, hlookup⟩ := hstands.inlines? hdescribe
        obtain ⟨below, rfl, -⟩ := hnests.below ⟨field, hfield, hstands⟩
        -- A record of the sources is never answered with nothing.
        have hnone : index.fieldsWithin below name = .ok none := hplain name hinlines
        rw [fieldsWithin_of_record hlookup] at hnone
        obtain ⟨rows, -, hsome⟩ := Except.bind_eq_ok hnone
        cases hsome

/-- Fields in full are found, if the depth is not reached. -/
theorem InFull.rowsWithin_eq (h : index.InFull decl fields fs)
    (hnests : index.NestsWithin depth decl) (hfields : fields ⊆ decl.fields) :
    index.rowsWithin depth decl fields = .ok fs := by
  induction h generalizing depth with
  | nil => rfl
  | @skipped decl field fields fs hskip hrest ih =>
    have hrow : index.fieldRecords (index.inlining depth)
        (WireSettings.ofAttributes decl.attributes) field = .ok [] := by
      rw [fieldRecords, hskip]
      rfl
    have hrest := ih hnests fun _ hmem => hfields (List.mem_cons_of_mem _ hmem)
    exact rowsWithin_cons_eq_ok_iff.mpr ⟨[], fs, hrow, hrest, rfl⟩
  | @flattened decl inner field fields gs fs hstands hinner hrest ihinner ih =>
    obtain ⟨below, rfl, hnested⟩ := hnests.below ⟨field, hfields List.mem_cons_self, hstands⟩
    have hrest := ih hnests fun _ hmem => hfields (List.mem_cons_of_mem _ hmem)
    refine rowsWithin_cons_eq_ok_iff.mpr ⟨gs, fs, ?_, hrest, rfl⟩
    obtain ⟨hskip, -, descriptor, nullable, -, hdescribe, -⟩ := id hstands
    obtain ⟨name, hinlines, hlookup⟩ := hstands.inlines? hdescribe
    have hfound := (fieldsWithin_eq_ok_iff hlookup).mpr (ihinner hnested fun _ => id)
    refine fieldRecords_of_describe (some gs) hskip hdescribe ?_
    rw [hinlines]
    exact hfound
  | @own decl field fields f fs hskip hown hrecord hrest ih =>
    obtain ⟨descriptor, nullable, hdescribe, rfl⟩ := isRecordOf_iff.mp hrecord
    have hrest := ih hnests fun _ hmem => hfields (List.mem_cons_of_mem _ hmem)
    refine rowsWithin_cons_eq_ok_iff.mpr ⟨[_], fs, ?_, hrest, rfl⟩
    refine fieldRecords_of_describe none hskip hdescribe ?_
    split
    · next name hinlines =>
      have hlookup : ¬ ∃ inner, index.lookupType? name = some (.record inner) := by
        rintro ⟨inner, hinner⟩
        exact hown inner (standsFor_of_inlines? hskip hdescribe hinlines hinner)
      cases depth with
      | zero => rfl
      | succ below => exact fieldsWithin_of_no_record hlookup
    · rfl

/-- Where no alias leads back to itself, fields are found for every record of the sources, also
where records are flattened into each other in a circle, unless an import renames a raw name. If
flattened fields nest at most eight deep, what is found is the fields of the record in full. -/
theorem fieldsOf_in_full (hacyclic : index.Acyclic)
    (hdecl : index.lookupType? name = some (.record decl)) :
    ((∃ fs, index.fieldsOf name = .ok (some fs)) ∨
      ∃ entry ∈ index.renames, isRawName entry.2 ∧
        index.fieldsOf name = .error (.rawName entry.2)) ∧
    (index.NestsWithin 8 decl → ∀ fs,
      index.fieldsOf name = .ok (some fs) ↔ index.InFull decl decl.fields fs) := by
  refine ⟨?_, fun hnests fs => ?_⟩
  · cases hanswer : index.fieldsOf name with
    | error reason =>
      obtain ⟨t, ht⟩ := exists_of_fieldsWithin_error hanswer
      obtain ⟨entry, hentry, hraw, rfl⟩ := hacyclic.raw_of_describe ht
      exact Or.inr ⟨entry, hentry, hraw, rfl⟩
    | ok answer =>
      refine Or.inl ?_
      rw [fieldsOf, fieldsWithin_of_record hdecl] at hanswer
      obtain ⟨rows, -, hrows⟩ := Except.bind_eq_ok hanswer
      exact ⟨rows.flatten, congrArg Except.ok (Except.ok.inj hrows).symm⟩
  · have hfound : index.fieldsOf name = .ok (some fs) ↔
        index.rowsWithin 8 decl decl.fields = .ok fs := fieldsWithin_eq_ok_iff hdecl
    rw [hfound]
    constructor
    · exact inFull_of_rowsWithin hnests fun _ => id
    · intro hfull
      exact hfull.rowsWithin_eq hnests fun _ => id

/-- Records that are flattened two deep, each with a rule or a default of its own, beside a record
that is flattened into itself. -/
theorem fieldsOf_in_full_page :
    let wrap (wrapper name : String) : TypeExpr := .named {} wrapper true [.ofName name]
    let flattened : List (Attribute Expr) := [{ settings := [.flatten] }]
    let audit : RecordDecl Expr :=
      { name := "Audit", attributes := [{ settings := [.renameAll "SCREAMING_SNAKE_CASE"] }]
        fields := [⟨"created_by", .ofName "String", []⟩] }
    let extent : RecordDecl Expr :=
      { name := "Extent", attributes := [{ settings := [.default] }]
        fields := [⟨"page_count", .ofName "u32", []⟩, ⟨"audit", wrap "Box" "Audit", flattened⟩] }
    let page : RecordDecl Expr :=
      { name := "Page", attributes := [{ settings := [.renameAll "kebab-case"] }]
        fields := [⟨"all_items", wrap "Vec" "Item", []⟩,
          ⟨"extent", wrap "Option" "Extent", flattened⟩,
          ⟨"cached_at", .ofName "u64", [{ settings := [.skip, .flatten] }]⟩] }
    let node : RecordDecl Expr :=
      { name := "Node", fields := [⟨"next", wrap "Box" "Node", flattened⟩] }
    let index := ofFiles [{ path := "lib.rs", items :=
      [.record page [], .record extent [], .record audit [], .record node []] }]
    index.Acyclic ∧ index.NestsWithin 8 page ∧
    (∃ fs, index.fieldsOf "Page" = .ok (some fs) ∧ index.InFull page page.fields fs ∧
      fs.map (fun f => (f.wireName, f.hasDefault)) =
        [("all-items", false), ("pageCount", true), ("CREATED_BY", false)]) ∧
    ∃ fs, index.fieldsOf "Node" = .ok (some fs) := by
  intro wrap flattened audit extent page node index
  have hacyclic : index.Acyclic := acyclic_of_rank (fun _ => 0) nofun nofun
  have haudit : index.NestsWithin 6 audit := by
    refine nestsWithin_of_forall ?_
    rintro inner ⟨field, hfield, -, hflatten, -⟩
    obtain rfl := List.mem_singleton.mp hfield
    cases hflatten
  have hextent : index.NestsWithin 7 extent := by
    refine nestsWithin_of_forall ?_
    rintro inner ⟨field, hfield, -, hflatten, descriptor, nullable, name, hdescribe, hname, hinner⟩
    rcases List.mem_pair.mp hfield with rfl | rfl
    · cases hflatten
    · cases hdescribe
      cases hname
      cases hinner
      exact haudit
  have hpage : index.NestsWithin 8 page := by
    refine nestsWithin_of_forall ?_
    rintro inner ⟨field, hfield, hskip, hflatten, descriptor, nullable, name, hdescribe, hname,
      hinner⟩
    rcases List.mem_cons.mp hfield with rfl | hfield
    · cases hflatten
    · rcases List.mem_pair.mp hfield with rfl | rfl
      · cases hdescribe
        cases hname
        cases hinner
        exact hextent
      · cases hskip
  have hpageDecl : index.lookupType? "Page" = some (.record page) := rfl
  have hnodeDecl : index.lookupType? "Node" = some (.record node) := rfl
  have hfound : index.fieldsOf "Page" = .ok (some ((index.fields? "Page").getD [])) := by rfl
  have hfull := ((fieldsOf_in_full hacyclic hpageDecl).2 hpage _).mp hfound
  refine ⟨hacyclic, hpage, ⟨_, hfound, hfull, by decide +kernel⟩, ?_⟩
  rcases (fieldsOf_in_full hacyclic hnodeDecl).1 with hnode | ⟨entry, hentry, -⟩
  · exact hnode
  · cases hentry

/-- A field whose type is a raw name under the new name that an import gives it: nothing is found
for the record, though the raw name itself can be described. -/
theorem fieldsOf_of_raw_rename :
    let item : RecordDecl Expr := { name := "Item", fields := [⟨"kind", .ofName "Kind", []⟩] }
    let index := ofFiles [{ path := "lib.rs", items :=
      [.imports [("Kind", "r#type")] [], .record item []] }]
    index.Acyclic ∧ index.lookupType? "Item" = some (.record item) ∧ index.NestsWithin 8 item ∧
    index.fieldsOf "Item" = .error (.rawName "r#type") ∧
    index.describe (.ofName "r#type") = .ok (.reference "r#type", false) := by
  intro item index
  let rank (name : String) : Nat := if name = "Kind" then 1 else 0
  have hacyclic : index.Acyclic := acyclic_of_rank rank (by decide +kernel) (by decide +kernel)
  have hnests : index.NestsWithin 8 item := by
    refine nestsWithin_of_forall ?_
    rintro inner ⟨field, hfield, -, hflatten, -⟩
    obtain rfl := List.mem_singleton.mp hfield
    cases hflatten
  exact ⟨hacyclic, rfl, hnests, by rfl, by rfl⟩

end RouteContract.Source.Index
