import Mathlib.Data.List.Infix
import Mathlib.Data.List.Perm.Basic
import Mathlib.Logic.Relation
import RouteContract.Source.Index

/-!
What makes a route builder. A trait does if a chain of supertraits leads from it to the configured
one, and a type does if it implements such a trait. The index finds the traits in rounds. A round
keeps what is known, adds nothing that leads nowhere, and adds every trait with a known supertrait,
so that the rounds end with the least set that holds the configured trait and is closed under adding
subtraits. Every round but the last uses up a declaration whose trait was not known.
-/

namespace RouteContract.Source

open Relation (ReflTransGen)

/-- A declaration at module level: one of a list, or of a module among them. -/
inductive Declares : List Code → Code → Prop
  | here {items : List Code} {c : Code} (hmem : c ∈ items)
      (hitem : ∀ lead inner, c ≠ .module lead inner) : Declares items c
  | nested {items lead inner : List Code} {c : Code} (hmem : .module lead inner ∈ items)
      (h : Declares inner c) : Declares items c

theorem mem_moduleItems_iff {items : List Code} {c : Code} :
    c ∈ moduleItems items ↔ ∃ item ∈ items, c ∈ moduleItemsOf item := by
  induction items with
  | nil => simp [moduleItems]
  | cons item items ih => simp [moduleItems, ih]

mutual

theorem declares_of_mem_moduleItems (items : List Code) {c : Code} (h : c ∈ moduleItems items) :
    Declares items c := by
  cases items with
  | nil => cases h
  | cons item items =>
    rw [moduleItems, List.mem_append] at h
    rcases h with h | h
    · exact declares_of_mem_moduleItemsOf item List.mem_cons_self h
    · cases declares_of_mem_moduleItems items h with
      | here hmem hitem => exact .here (List.mem_cons_of_mem _ hmem) hitem
      | nested hmem h => exact .nested (List.mem_cons_of_mem _ hmem) h

theorem declares_of_mem_moduleItemsOf (item : Code) {items : List Code} {c : Code}
    (hmem : item ∈ items) (h : c ∈ moduleItemsOf item) : Declares items c := by
  cases item with
  | module lead inner => exact .nested hmem (declares_of_mem_moduleItems inner h)
  | _ =>
    obtain rfl := List.mem_singleton.mp h
    exact .here hmem (by simp)

end

theorem mem_moduleItems_of_declares {items : List Code} {c : Code} (h : Declares items c) :
    c ∈ moduleItems items := by
  induction h with
  | @here items c hmem hitem =>
    refine mem_moduleItems_iff.mpr ⟨c, hmem, ?_⟩
    cases c with
    | module lead inner => exact absurd rfl (hitem lead inner)
    | _ => exact List.mem_singleton_self _
  | nested hmem _ ih => exact mem_moduleItems_iff.mpr ⟨_, hmem, ih⟩

/-- A declaration at module level in one of some files. -/
def DeclaredIn (files : List SourceFile) (c : Code) : Prop :=
  ∃ f ∈ files, Declares f.items c

theorem mem_declarations_iff {files : List SourceFile} {c : Code} :
    c ∈ files.flatMap (fun f => moduleItems f.items) ↔ DeclaredIn files c := by
  rw [List.mem_flatMap]
  exact exists_congr fun f => and_congr_right fun _ =>
    ⟨declares_of_mem_moduleItems f.items, mem_moduleItems_of_declares⟩

/-- The same declarations in another order, also inside modules. -/
inductive Reordered : List Code → List Code → Prop
  | nil : Reordered [] []
  | keep (c : Code) {cs ds : List Code} (h : Reordered cs ds) : Reordered (c :: cs) (c :: ds)
  | inside (lead : List Code) {inner inner' cs ds : List Code} (hinner : Reordered inner inner')
      (h : Reordered cs ds) : Reordered (.module lead inner :: cs) (.module lead inner' :: ds)
  | swap (c d : Code) (cs : List Code) : Reordered (c :: d :: cs) (d :: c :: cs)
  | trans {cs ds es : List Code} (h : Reordered cs ds) (h' : Reordered ds es) : Reordered cs es

theorem Reordered.mem_moduleItems_iff {cs ds : List Code} (h : Reordered cs ds) (c : Code) :
    c ∈ moduleItems cs ↔ c ∈ moduleItems ds := by
  induction h with
  | nil => rfl
  | keep d _ ih => simp only [moduleItems, List.mem_append, ih]
  | inside lead _ _ ihinner ih =>
    simp only [moduleItems, moduleItemsOf, List.mem_append, ihinner, ih]
  | swap d e cs =>
    simp only [moduleItems, List.mem_append]
    exact or_left_comm
  | trans _ _ ih ih' => exact ih.trans ih'

section Rounds

variable {traits : List (String × List String)} {known : List String}

theorem growTraits_cons (entry : String × List String) (traits : List (String × List String))
    (known : List String) :
    growTraits (entry :: traits) known = growTraits traits
      (if entry.2.any known.contains && !known.contains entry.1 then known ++ [entry.1]
        else known) := rfl

theorem prefix_growTraits (traits : List (String × List String)) (known : List String) :
    known <+: growTraits traits known := by
  induction traits generalizing known with
  | nil => exact List.prefix_rfl
  | cons entry traits ih =>
    rw [growTraits_cons]
    refine List.IsPrefix.trans ?_ (ih _)
    split
    · exact List.prefix_append known [entry.1]
    · exact List.prefix_rfl

theorem growTraits_eq_self (h : (growTraits traits known).length = known.length) :
    growTraits traits known = known :=
  ((prefix_growTraits traits known).eq_of_length h.symm).symm

/-- A round finds every trait that has a known supertrait. -/
theorem mem_growTraits_of_super {name super : String} {supers : List String}
    (hentry : (name, supers) ∈ traits) (hsuper : super ∈ supers) (hknown : super ∈ known) :
    name ∈ growTraits traits known := by
  induction traits generalizing known with
  | nil => cases hentry
  | cons entry traits ih =>
    rw [growTraits_cons]
    rcases List.mem_cons.mp hentry with rfl | hentry
    · have hany : supers.any known.contains :=
        List.any_eq_true.mpr ⟨super, hsuper, List.contains_iff_mem.mpr hknown⟩
      refine (prefix_growTraits traits _).subset ?_
      by_cases hmem : name ∈ known
      · simp [hmem]
      · simp [hany, hmem]
    · refine ih hentry ?_
      -- Whether or not the first trait joins, the supertrait stays known.
      split
      · exact List.mem_append_left _ hknown
      · exact hknown

/-- What holds of all known traits, and of every trait that has a supertrait of which it holds,
holds of the traits that a round ends with. -/
theorem forall_mem_growTraits {P : String → Prop}
    (hclosed : ∀ name supers, (name, supers) ∈ traits → ∀ super ∈ supers, P super → P name)
    (hknown : ∀ name ∈ known, P name) : ∀ name ∈ growTraits traits known, P name := by
  induction traits generalizing known with
  | nil => exact hknown
  | cons entry traits ih =>
    rw [growTraits_cons]
    refine ih (fun name supers hentry => hclosed name supers (List.mem_cons_of_mem _ hentry)) ?_
    split
    · next hjoins =>
      obtain ⟨super, hsuper, hfound⟩ :=
        List.any_eq_true.mp ((Bool.and_eq_true _ _).mp hjoins).1
      intro name hname
      rcases List.mem_append.mp hname with hname | hname
      · exact hknown name hname
      · obtain rfl := List.mem_singleton.mp hname
        exact hclosed _ _ List.mem_cons_self super hsuper
          (hknown super (List.contains_iff_mem.mp hfound))
    · exact hknown

/-- A round that finds no trait leaves a set that is closed under adding subtraits. -/
theorem growTraits_eq_self_iff : growTraits traits known = known ↔
    ∀ name supers, (name, supers) ∈ traits → ∀ super ∈ supers, super ∈ known → name ∈ known := by
  constructor
  · intro hsame name supers hentry super hsuper hknown
    rw [← hsame]
    exact mem_growTraits_of_super hentry hsuper hknown
  · intro hclosed
    induction traits with
    | nil => rfl
    | cons entry traits ih =>
      have hstays : (entry.2.any known.contains && !known.contains entry.1) = false := by
        rw [Bool.and_eq_false_imp]
        intro hany
        obtain ⟨super, hsuper, hfound⟩ := List.any_eq_true.mp hany
        have hmem := hclosed _ _ List.mem_cons_self super hsuper (List.contains_iff_mem.mp hfound)
        simpa using hmem
      rw [growTraits_cons, hstays]
      exact ih fun name supers hentry => hclosed name supers (List.mem_cons_of_mem _ hentry)

/-- The declarations of traits that are not known. -/
def unknownTraits (traits : List (String × List String)) (known : List String) :
    List (String × List String) :=
  traits.filter fun entry => !known.contains entry.1

/-- A round that finds a trait uses up a declaration. -/
theorem length_unknownTraits_lt (h : growTraits traits known ≠ known) :
    (unknownTraits traits (growTraits traits known)).length <
      (unknownTraits traits known).length := by
  rw [Ne, growTraits_eq_self_iff] at h
  push Not at h
  obtain ⟨name, supers, hentry, super, hsuper, hknown, hnew⟩ := h
  have hsubset := (prefix_growTraits traits known).subset
  have hstill : unknownTraits traits (growTraits traits known) =
      (unknownTraits traits known).filter
        fun entry => !(growTraits traits known).contains entry.1 := by
    rw [unknownTraits, unknownTraits, List.filter_filter]
    refine List.filter_congr fun entry _ => ?_
    by_cases hmem : entry.1 ∈ known
    · simp [hmem, hsubset hmem]
    · simp [hmem]
  rw [hstill, List.length_filter_lt_length_iff_exists]
  refine ⟨(name, supers), List.mem_filter.mpr ⟨hentry, by simpa using hnew⟩, ?_⟩
  simpa using mem_growTraits_of_super hentry hsuper hknown

/-- Rounds from a set of traits on, of which the first that finds no trait is the last. -/
inductive Settles (traits : List (String × List String)) : List String → List String → Prop
  | stop {known : List String} (h : (growTraits traits known).length = known.length) :
      Settles traits known (growTraits traits known)
  | again {known result : List String} (h : (growTraits traits known).length ≠ known.length)
      (hrest : Settles traits (growTraits traits known) result) : Settles traits known result

theorem growTraitsWithin_of_closed (h : growTraits traits known = known) (n : Nat) :
    growTraitsWithin traits n known = known := by
  induction n with
  | zero => rfl
  | succ n ih => rw [growTraitsWithin, h, ih]

theorem settles_of_closed (h : growTraits traits known = known) : Settles traits known known := by
  have hstop := Settles.stop (congrArg List.length h)
  rwa [h] at hstop

/-- As many rounds as there are declarations of unknown traits are enough. -/
theorem settles_growTraitsWithin {n : Nat} (h : (unknownTraits traits known).length ≤ n) :
    Settles traits known (growTraitsWithin traits n known) := by
  -- A round either is the last one, or leaves fewer unknown traits for the rounds behind it.
  induction n generalizing known with
  | zero =>
    have hsame : growTraits traits known = known := by
      by_contra hfound
      have hlt := length_unknownTraits_lt hfound
      omega
    exact settles_of_closed hsame
  | succ n ih =>
    by_cases hlength : (growTraits traits known).length = known.length
    · have hsame := growTraits_eq_self hlength
      rw [growTraitsWithin_of_closed hsame]
      exact settles_of_closed hsame
    · have hlt := length_unknownTraits_lt fun hsame => hlength (congrArg List.length hsame)
      exact .again hlength (ih (by omega))

theorem Settles.unique {result result' : List String} (h : Settles traits known result)
    (h' : Settles traits known result') : result' = result := by
  induction h with
  | stop hstop =>
    cases h' with
    | stop => rfl
    | again hgoes => exact absurd hstop hgoes
  | again hgoes _ ih =>
    cases h' with
    | stop hstop => exact absurd hstop hgoes
    | again _ hrest => exact ih hrest

theorem Settles.subset {result : List String} (h : Settles traits known result) :
    known ⊆ result := by
  induction h with
  | stop => exact (prefix_growTraits traits _).subset
  | again _ _ ih => exact List.Subset.trans (prefix_growTraits traits _).subset ih

theorem Settles.closed {result : List String} (h : Settles traits known result) :
    growTraits traits result = result := by
  induction h with
  | stop h => rw [growTraits_eq_self h, growTraits_eq_self h]
  | again _ _ ih => exact ih

theorem Settles.forall_mem {P : String → Prop} {result : List String}
    (h : Settles traits known result)
    (hclosed : ∀ name supers, (name, supers) ∈ traits → ∀ super ∈ supers, P super → P name)
    (hknown : ∀ name ∈ known, P name) : ∀ name ∈ result, P name := by
  induction h with
  | stop => exact forall_mem_growTraits hclosed hknown
  | again _ _ ih => exact ih (forall_mem_growTraits hclosed hknown)

end Rounds

/-- Some trait of one name is declared with a supertrait of the other. -/
def Extends (files : List SourceFile) (name super : String) : Prop :=
  ∃ supers lead members, DeclaredIn files (.trait name supers lead members) ∧ super ∈ supers

/-- Some implementation is one of a trait of this name for a type of that name. -/
def Implements (files : List SourceFile) (traitName type : String) : Prop :=
  ∃ bounds lead members, DeclaredIn files (.impl (some type) bounds (some traitName) lead members)

/-- The traits that the files declare, with their supertraits. -/
def traitEntries (files : List SourceFile) : List (String × List String) :=
  (files.flatMap fun f => moduleItems f.items).filterMap Code.traitEntry?

section Declared

variable {files files' : List SourceFile} {name super type : String}

theorem extends_iff :
    Extends files name super ↔ ∃ supers, (name, supers) ∈ traitEntries files ∧ super ∈ supers := by
  simp only [traitEntries, List.mem_filterMap, mem_declarations_iff]
  constructor
  · rintro ⟨supers, lead, members, hdeclared, hsuper⟩
    exact ⟨supers, ⟨_, hdeclared, rfl⟩, hsuper⟩
  · rintro ⟨supers, ⟨c, hdeclared, hentry⟩, hsuper⟩
    cases c <;> cases hentry
    exact ⟨supers, _, _, hdeclared, hsuper⟩

theorem implements_iff : Implements files name type ↔
    ∃ c, DeclaredIn files c ∧ c.implEntry? = some (name, type) := by
  constructor
  · rintro ⟨bounds, lead, members, hdeclared⟩
    exact ⟨_, hdeclared, rfl⟩
  · rintro ⟨c, hdeclared, hentry⟩
    rw [Code.implEntry?.eq_def] at hentry
    split at hentry <;> cases hentry
    exact ⟨_, _, _, hdeclared⟩

/-- More declarations lead to no fewer traits. -/
theorem leads_mono (hdeclared : ∀ c, DeclaredIn files c → DeclaredIn files' c) {root : String}
    (h : ReflTransGen (Extends files) name root) : ReflTransGen (Extends files') name root := by
  refine ReflTransGen.mono ?_ _ _ h
  rintro name super ⟨supers, lead, members, hfound, hsuper⟩
  exact ⟨supers, lead, members, hdeclared _ hfound, hsuper⟩

theorem declaredIn_of_reordered {permuted : List SourceFile} (hfiles : files.Perm permuted)
    (hitems : List.Forall₂ (fun f f' => Reordered f.items f'.items) permuted files') (c : Code) :
    DeclaredIn files c ↔ DeclaredIn files' c := by
  have hreordered : (∃ f ∈ permuted, c ∈ moduleItems f.items) ↔
      ∃ f ∈ files', c ∈ moduleItems f.items := by
    induction hitems generalizing files with
    | nil => simp
    | cons hhead _ ih =>
      simp only [List.exists_mem_cons_iff, hhead.mem_moduleItems_iff, ih (List.Perm.refl _)]
  simp only [← mem_declarations_iff, List.mem_flatMap, ← hreordered, hfiles.mem_iff]

end Declared

namespace Index

variable {files : List SourceFile} {builderTrait name type : String}

theorem settles_builderTraits (files : List SourceFile) (builderTrait : String) :
    Settles (traitEntries files) [builderTrait] (ofFiles files builderTrait).builderTraits :=
  settles_growTraitsWithin (List.length_filter_le _ _)

theorem mem_builderTraits_iff : name ∈ (ofFiles files builderTrait).builderTraits ↔
    ReflTransGen (Extends files) name builderTrait := by
  have hsettles := settles_builderTraits files builderTrait
  constructor
  · refine hsettles.forall_mem (P := fun name => ReflTransGen (Extends files) name builderTrait)
      ?_ ?_ name
    · intro name supers hentry super hsuper hleads
      exact .head (extends_iff.mpr ⟨supers, hentry, hsuper⟩) hleads
    · intro name hname
      rw [List.mem_singleton.mp hname]
  · intro hleads
    induction hleads using ReflTransGen.head_induction_on with
    | refl => exact hsettles.subset (List.mem_singleton_self _)
    | head hextends _ hknown =>
      obtain ⟨supers, hentry, hsuper⟩ := extends_iff.mp hextends
      exact growTraits_eq_self_iff.mp hsettles.closed _ supers hentry _ hsuper hknown

theorem mem_builderTypes_iff : type ∈ (ofFiles files builderTrait).builderTypes ↔
    ∃ name, Implements files name type ∧ ReflTransGen (Extends files) name builderTrait := by
  have htypes : (ofFiles files builderTrait).builderTypes =
      ((files.flatMap fun f => moduleItems f.items).filterMap Code.implEntry?).filterMap
        fun entry => if (ofFiles files builderTrait).builderTraits.contains entry.1
          then some entry.2 else none := rfl
  simp only [htypes, List.mem_filterMap, mem_declarations_iff]
  constructor
  · rintro ⟨⟨name, self⟩, hentry, hkept⟩
    rw [Option.ite_none_right_eq_some, List.contains_iff_mem, mem_builderTraits_iff] at hkept
    obtain ⟨hleads, rfl⟩ := hkept.imp_right Option.some.inj
    exact ⟨name, implements_iff.mpr hentry, hleads⟩
  · rintro ⟨name, himplements, hleads⟩
    refine ⟨(name, type), implements_iff.mp himplements, if_pos ?_⟩
    exact List.contains_iff_mem.mpr (mem_builderTraits_iff.mpr hleads)

/-- More declarations make no fewer builders. -/
theorem builders_mono (builderTrait : String) {files' : List SourceFile}
    (hdeclared : ∀ c, DeclaredIn files c → DeclaredIn files' c) :
    (ofFiles files builderTrait).builderTraits ⊆ (ofFiles files' builderTrait).builderTraits ∧
    (ofFiles files builderTrait).builderTypes ⊆ (ofFiles files' builderTrait).builderTypes := by
  constructor
  · intro name hname
    exact mem_builderTraits_iff.mpr (leads_mono hdeclared (mem_builderTraits_iff.mp hname))
  · intro type htype
    obtain ⟨name, ⟨bounds, lead, members, hfound⟩, hleads⟩ := mem_builderTypes_iff.mp htype
    exact mem_builderTypes_iff.mpr
      ⟨name, ⟨bounds, lead, members, hdeclared _ hfound⟩, leads_mono hdeclared hleads⟩

/-- The rounds that look for builder traits end, and they end with the traits from which a chain of
supertraits leads to the configured one; the builder types are the types that implement one of
these. So neither depends on the order of files and declarations, and more files only add to
them. -/
theorem builders_least (files : List SourceFile) (builderTrait : String) :
    let index := ofFiles files builderTrait
    (∀ traits, Settles (traitEntries files) [builderTrait] traits ↔ traits = index.builderTraits) ∧
    (∀ name, name ∈ index.builderTraits ↔ ReflTransGen (Extends files) name builderTrait) ∧
    (∀ type, type ∈ index.builderTypes ↔
      ∃ name, Implements files name type ∧ ReflTransGen (Extends files) name builderTrait) ∧
    (∀ permuted files', files.Perm permuted →
      List.Forall₂ (fun f f' => Reordered f.items f'.items) permuted files' →
      (∀ name, name ∈ (ofFiles files' builderTrait).builderTraits ↔ name ∈ index.builderTraits) ∧
      ∀ type, type ∈ (ofFiles files' builderTrait).builderTypes ↔ type ∈ index.builderTypes) ∧
    ∀ files', files ⊆ files' →
      index.builderTraits ⊆ (ofFiles files' builderTrait).builderTraits ∧
      index.builderTypes ⊆ (ofFiles files' builderTrait).builderTypes := by
  intro index
  have hsettles := settles_builderTraits files builderTrait
  refine ⟨fun traits => ⟨hsettles.unique, ?_⟩, fun _ => mem_builderTraits_iff,
    fun _ => mem_builderTypes_iff, ?_, ?_⟩
  · rintro rfl
    exact hsettles
  · intro permuted files' hfiles hitems
    have hsame := declaredIn_of_reordered hfiles hitems
    obtain ⟨htraits, htypes⟩ := builders_mono builderTrait fun c => (hsame c).mp
    obtain ⟨htraits', htypes'⟩ := builders_mono builderTrait fun c => (hsame c).mpr
    exact ⟨fun name => ⟨@htraits' name, @htraits name⟩, fun type => ⟨@htypes' type, @htypes type⟩⟩
  · intro files' hfiles
    refine builders_mono builderTrait ?_
    rintro c ⟨f, hmem, hdeclared⟩
    exact ⟨f, hfiles hmem, hdeclared⟩

/-- A trait declared before its supertrait, which is declared in a module, and a ring of traits,
written in two orders. -/
theorem builders_least_shop :
    let shop (items inner : List Code) : SourceFile :=
      { path := "shop.rs", items := .module [] inner :: items }
    let paged : Code := .trait "Paged" ["Send", "Versioned"] [] []
    let versioned : Code := .trait "Versioned" ["RouteBuilder"] [] []
    let left : Code := .trait "Left" ["Right"] [] []
    let implemented : Code := .impl (some "Shop") [] (some "Paged") [] []
    let ring : SourceFile :=
      { path := "ring.rs"
        items := [.trait "Right" ["Left"] [] [], .impl (some "Ring") [] (some "Right") [] []] }
    let files := [shop [paged, left] [implemented, versioned], ring]
    let files' := [ring, shop [left, paged] [versioned, implemented]]
    files.Perm files.reverse ∧
    List.Forall₂ (fun f f' => Reordered f.items f'.items) files.reverse files' ∧
    (ofFiles files).builderTraits = ["RouteBuilder", "Versioned", "Paged"] ∧
    "Paged" ∈ (ofFiles files').builderTraits ∧ "Shop" ∈ (ofFiles files').builderTypes ∧
    "Ring" ∉ (ofFiles files').builderTypes ∧
    ∀ more, "Shop" ∈ (ofFiles (more ++ files)).builderTypes := by
  intro shop paged versioned left implemented ring files files'
  have hfiles : files.Perm files.reverse := files.reverse_perm.symm
  have hitems : List.Forall₂ (fun f f' => Reordered f.items f'.items) files.reverse files' := by
    refine .cons (.keep _ (.keep _ .nil)) (.cons (.inside [] ?_ ?_) .nil)
    · exact .swap implemented versioned []
    · exact .swap paged left []
  obtain ⟨-, -, -, hreordered, hmore⟩ := builders_least files defaultBuilderTrait
  obtain ⟨htraits, htypes⟩ := hreordered files.reverse files' hfiles hitems
  refine ⟨hfiles, hitems, by decide +kernel, (htraits "Paged").mpr (by decide +kernel),
    (htypes "Shop").mpr (by decide +kernel), ?_, ?_⟩
  · rw [htypes "Ring"]
    decide +kernel
  · intro more
    exact (hmore (more ++ files) (List.subset_append_right _ _)).2 (by decide +kernel)

end Index

end RouteContract.Source
