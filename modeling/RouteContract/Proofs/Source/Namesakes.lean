import RouteContract.Proofs.Source.Builders
import RouteContract.Proofs.Source.Folding
import RouteContract.Source.Parse
import RouteContract.Table

/-!
Constants of one name in several modules. A constant of a type is known by the name of the type and
its own, but a constant of a module by its own name alone. A path through a module therefore means
the constant of its last name that is declared last, in whatever module and file that one stands.
Where all constants of the name are literals, the path has the text that its module gives it in
every order of the files if and only if the last constant of the name in each file has this text.
-/

namespace RouteContract.Source

variable {files : List SourceFile} {items members : List Code} {name owner : String}

/-- A module, itself at module level, has these members. -/
inductive ModuleIn : List Code → List Code → Prop
  | here {items lead members : List Code} (hmem : .module lead members ∈ items) :
      ModuleIn items members
  | nested {items lead inner members : List Code} (hmem : .module lead inner ∈ items)
      (h : ModuleIn inner members) : ModuleIn items members

theorem ModuleIn.declares {c : Code} (h : ModuleIn items members) (hc : Declares members c) :
    Declares items c := by
  induction h with
  | here hmem => exact .nested hmem hc
  | nested hmem _ ih => exact .nested hmem (ih hc)

/-- The values of the constants that some declarations know by a name, in their order. -/
def valuesOf (name : String) (items : List Code) : List Expr :=
  (items.flatMap Code.constantEntries).filterMap fun entry =>
    if name = entry.1 then some entry.2 else none

/-- The values of the constants that a file knows by a name. -/
def SourceFile.valuesOf (file : SourceFile) (name : String) : List Expr :=
  Source.valuesOf name (moduleItems file.items)

theorem mem_valuesOf {lead : List Code} {value : Expr} {file : SourceFile}
    (h : Declares file.items (.constant name lead value)) : value ∈ file.valuesOf name := by
  have hitem := mem_moduleItems_of_declares h
  refine List.mem_filterMap.mpr ⟨(name, value), List.mem_flatMap.mpr ⟨_, hitem, ?_⟩, if_pos rfl⟩
  exact List.mem_singleton_self _

theorem lookup_eq_head? {α : Type} (entries : List (String × α)) (name : String) :
    entries.lookup name =
      (entries.filterMap fun entry => if name = entry.1 then some entry.2 else none).head? := by
  induction entries with
  | nil => rfl
  | cons entry rest ih =>
    rw [Table.lookup_cons, List.filterMap_cons, ih]
    by_cases hname : name = entry.1
    · rw [if_pos hname, if_pos hname, List.head?_cons]
    · rw [if_neg hname, if_neg hname]

namespace Index

/-- The constant of a name is the one that is declared last. -/
theorem lookup_constants (files : List SourceFile) (builderTrait name : String) :
    (ofFiles files builderTrait).constants.lookup name =
      (files.flatMap (·.valuesOf name)).getLast? := by
  change ((files.flatMap fun f => moduleItems f.items).flatMap
    Code.constantEntries).reverse.lookup name = _
  rw [lookup_eq_head?, List.filterMap_reverse, List.head?_reverse, List.flatMap_assoc,
    List.filterMap_flatMap]
  rfl

theorem foldWithin_literal (index : Index) (n : Nat) (l : Literal) :
    index.foldWithin (n + 1) (.literal l) = l.text? := rfl

/-- A path means the constant of its last name that is declared last, if nothing is known by its
last two names. -/
theorem constant?_of_unowned (builderTrait : String)
    (hunowned : ∀ f ∈ files, f.valuesOf (owner ++ "::" ++ name) = []) (before : List String)
    (inner : List Expr) :
    (ofFiles files builderTrait).constant? (.path (before ++ [owner, name]) inner) =
      (files.flatMap (·.valuesOf name)).getLast?.bind
        ((ofFiles files builderTrait).foldWithin 8) := by
  have howned : (ofFiles files builderTrait).constants.lookup (owner ++ "::" ++ name) = none := by
    rw [lookup_constants, List.getLast?_eq_none_iff, List.flatMap_eq_nil_iff]
    exact hunowned
  have hexpr : (ofFiles files builderTrait).constantExpr? (before ++ [owner, name]) =
      (files.flatMap (·.valuesOf name)).getLast? := by
    rw [constantExpr?, constantKeys_append, List.findSome?_cons, howned, List.findSome?_cons,
      lookup_constants]
    cases (files.flatMap (·.valuesOf name)).getLast? <;> rfl
  rw [constant?, foldingSteps, foldWithin]
  simp only [Expr.bare, hexpr]

/-- A constant with a literal value in a module, which no type of the module's name has as its own.
A path through the module means the constant of the name that is declared last, in whatever module
and file. Where all constants of the name are literals, the path has the text of the module's own
one in every order of the files if and only if each file that has constants of the name ends with
one of this text. -/
theorem constant?_of_module (builderTrait : String) {file : SourceFile} {lead : List Code}
    {l : Literal} (hfile : file ∈ files) (hmodule : ModuleIn file.items members)
    (hconstant : .constant name lead (.literal l) ∈ members)
    (hunowned : ∀ f ∈ files, f.valuesOf (owner ++ "::" ++ name) = []) (before : List String)
    (inner : List Expr) :
    (∃ value, (files.flatMap (·.valuesOf name)).getLast? = some value ∧
      (ofFiles files builderTrait).constant? (.path (before ++ [owner, name]) inner) =
        (ofFiles files builderTrait).foldWithin 8 value) ∧
    ((∀ value ∈ files.flatMap (·.valuesOf name), ∃ l', value = .literal l') →
      ((∀ reordered, reordered.Perm files →
        (ofFiles reordered builderTrait).constant? (.path (before ++ [owner, name]) inner) =
          l.text?) ↔
      ∀ f ∈ files, ∀ l', (f.valuesOf name).getLast? = some (.literal l') →
        l'.text? = l.text?)) := by
  have hdeclared : Declares file.items (.constant name lead (.literal l)) :=
    hmodule.declares (.here hconstant nofun)
  have hsome (reordered : List SourceFile) (hperm : reordered.Perm files) :
      ∃ value, (reordered.flatMap (·.valuesOf name)).getLast? = some value := by
    have hmem : Expr.literal l ∈ reordered.flatMap (·.valuesOf name) :=
      List.mem_flatMap.mpr ⟨file, hperm.mem_iff.mpr hfile, mem_valuesOf hdeclared⟩
    refine Option.ne_none_iff_exists'.mp fun hnone => ?_
    exact List.ne_nil_of_mem hmem (List.getLast?_eq_none_iff.mp hnone)
  have hvalue (reordered : List SourceFile) (hperm : reordered.Perm files) :
      (ofFiles reordered builderTrait).constant? (.path (before ++ [owner, name]) inner) =
        (reordered.flatMap (·.valuesOf name)).getLast?.bind
          ((ofFiles reordered builderTrait).foldWithin 8) :=
    constant?_of_unowned builderTrait (fun f hf => hunowned f (hperm.mem_iff.mp hf)) before inner
  refine ⟨?_, fun hliteral => ⟨fun hevery f hf l' hlast => ?_, fun hends reordered hperm => ?_⟩⟩
  · obtain ⟨value, hlast⟩ := hsome files (.refl files)
    exact ⟨value, hlast, by rw [hvalue files (.refl files), hlast, Option.bind_some]⟩
  · -- The file may come last, and then its last constant of the name counts.
    obtain ⟨xs, ys, rfl⟩ := List.append_of_mem hf
    have hperm : (xs ++ ys ++ [f]).Perm (xs ++ f :: ys) := by
      rw [List.append_assoc]
      exact (List.perm_append_singleton f ys).append_left xs
    have htext := hevery _ hperm
    rw [hvalue _ hperm, List.flatMap_append, List.flatMap_singleton, List.getLast?_append, hlast,
      Option.some_or, Option.bind_some, foldWithin_literal] at htext
    exact htext
  · obtain ⟨value, hlast⟩ := hsome reordered hperm
    have hmem := List.mem_of_getLast? hlast
    obtain ⟨l', rfl⟩ := hliteral value ((hperm.flatMap_right _).mem_iff.mp hmem)
    rw [hvalue reordered hperm, hlast, Option.bind_some, foldWithin_literal]
    rw [List.getLast?_flatMap] at hlast
    obtain ⟨f, hf, hlast⟩ := List.exists_of_findSome?_eq_some hlast
    exact hends f (hperm.mem_iff.mp (List.mem_reverse.mp hf)) l' hlast

/-- A nested module among namesakes: one before it in its own file, of which nothing is seen, and
one of the same text in another file. -/
theorem constant?_of_module_base :
    let base (text : String) : Code := .constant "BASE" [] (.literal (.text text))
    let orders : List Code := [base "/v1"]
    let shop : SourceFile :=
      { path := "shop.rs", items := [base "/v0", .module [] [.module [] orders]] }
    let admin : SourceFile := { path := "admin.rs", items := [.module [] [base "/v1"]] }
    let path : Expr := .path ["crate", "orders", "BASE"] []
    ModuleIn shop.items orders ∧ (ofFiles [shop, admin]).constant? path = some "/v1" ∧
    (ofFiles [admin, shop]).constant? path = some "/v1" := by
  intro base orders shop admin path
  have hmodule : ModuleIn shop.items orders :=
    .nested (List.mem_cons_of_mem _ List.mem_cons_self) (.here List.mem_cons_self)
  have hunowned : ∀ f ∈ [shop, admin], f.valuesOf ("orders" ++ "::" ++ "BASE") = [] := by
    intro f hf
    rcases List.mem_pair.mp hf with rfl | rfl <;> decide +kernel
  have hfile : shop ∈ [shop, admin] := List.mem_cons_self
  obtain ⟨-, hiff⟩ := constant?_of_module defaultBuilderTrait hfile hmodule List.mem_cons_self
    hunowned ["crate"] []
  have hliteral : ∀ value ∈ [shop, admin].flatMap (·.valuesOf "BASE"),
      ∃ l, value = .literal l := by
    intro value hvalue
    change value ∈ ["/v0", "/v1", "/v1"].map fun text => Expr.literal (.text text) at hvalue
    obtain ⟨text, -, rfl⟩ := List.mem_map.mp hvalue
    exact ⟨_, rfl⟩
  have hevery := (hiff hliteral).mpr fun f hf l hlast => by
    rcases List.mem_pair.mp hf with rfl | rfl <;> cases hlast <;> rfl
  exact ⟨hmodule, hevery _ (.refl _), hevery _ (List.Perm.swap _ _ _)⟩

/-- Two modules that declare a constant of one name, as texts: the path through the first one has
the text that the second one gives, unless the first one is read last. -/
theorem constant?_of_namesake :
    let ours := "mod m \x7b\n    pub const C: &str = \"/a\";\n\x7d\n"
    let other := "mod n \x7b\n    pub const C: &str = \"/b\";\n\x7d\n"
    let value (texts : List String) : Option String := do
      let files ← texts.mapM (parseFile? "lib.rs")
      (ofFiles files).constant? (← parseExpr? "m::C")
    value [ours] = some "/a" ∧ value [other, ours] = some "/a" ∧
    value [ours, other] = some "/b" ∧ value [ours ++ other] = some "/b" := by
  decide +kernel

end Index

end RouteContract.Source
