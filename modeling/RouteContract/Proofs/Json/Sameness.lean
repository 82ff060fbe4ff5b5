import Mathlib.Data.List.Perm.Subperm
import Mathlib.Tactic
import RouteContract.Json.Distinct
import RouteContract.Table

/-!
Sameness of JSON values is an equivalence relation on the values in which no object has a name
twice. It compares the members of an object with what a search by name finds in the other, so each
law rests on what distinct names say about such a search: reflexivity needs that a member finds
itself, and symmetry that two objects with equally many members, the names of one among those of
the other, have the same names. Transitivity holds of all values.
-/

namespace RouteContract

theorem Decimal.Binary64.same_refl (x : Decimal.Binary64) : x.same x := by
  simp [Decimal.Binary64.same]

theorem Decimal.Binary64.same_symm {x y : Decimal.Binary64} (h : x.same y) : y.same x := by
  simp only [Decimal.Binary64.same, Bool.or_eq_true, beq_iff_eq, Bool.and_eq_true] at h ⊢
  exact h.imp Eq.symm And.symm

theorem Decimal.Binary64.same_trans {x y z : Decimal.Binary64} (hxy : x.same y)
    (hyz : y.same z) : x.same z := by
  simp only [Decimal.Binary64.same, Bool.or_eq_true, beq_iff_eq, Bool.and_eq_true] at hxy hyz ⊢
  rcases hxy with rfl | hxy
  · exact hyz
  · rcases hyz with rfl | hyz
    · exact Or.inr hxy
    · exact Or.inr ⟨hxy.1, hyz.2⟩

theorem Number.same_refl (n : Number) : n.same n := by
  cases n with
  | int i => simp [Number.same]
  | float x => exact x.same_refl

theorem Number.same_symm {m n : Number} (h : m.same n) : n.same m := by
  cases m with
  | int i =>
      cases n with
      | int j => simp_all [Number.same]
      | float y => simp [Number.same] at h
  | float x =>
      cases n with
      | int j => simp [Number.same] at h
      | float y => exact Decimal.Binary64.same_symm h

theorem Number.same_trans {l m n : Number} (hlm : l.same m) (hmn : m.same n) : l.same n := by
  cases l <;> cases m <;> cases n <;> simp_all [Number.same]
  exact Decimal.Binary64.same_trans hlm hmn

namespace Json

theorem sameItems_iff (as bs : List Json) :
    sameItems as bs ↔ List.Forall₂ (fun a b => a.same b) as bs := by
  induction as generalizing bs with
  | nil => cases bs <;> simp [sameItems]
  | cons a as ih =>
      cases bs with
      | nil => simp [sameItems]
      | cons b bs => simp [sameItems, ih]

theorem sameMembers_iff (as bs : List (String × Json)) :
    sameMembers as bs ↔ ∀ m ∈ as, ∃ b, bs.lookup m.1 = some b ∧ m.2.same b := by
  induction as with
  | nil => simp [sameMembers]
  | cons m as ih =>
      rw [sameMembers, Bool.and_eq_true, ih, List.forall_mem_cons]
      cases bs.lookup m.1 <;> simp

theorem same_arr_iff (as : List Json) (j : Json) :
    (Json.arr as).same j ↔
      ∃ bs, j = .arr bs ∧ as.length = bs.length ∧
        ∀ (i : Nat) (ha : i < as.length) (hb : i < bs.length), as[i].same bs[i] := by
  cases j <;> simp [same, sameItems_iff, List.forall₂_iff_get]

theorem same_obj_iff (as : List (String × Json)) (j : Json) :
    (Json.obj as).same j ↔
      ∃ bs, j = .obj bs ∧ as.length = bs.length ∧
        ∀ m ∈ as, ∃ b, bs.lookup m.1 = some b ∧ m.2.same b := by
  cases j <;> simp [same, sameMembers_iff]

/-- A value with distinct names is the same as itself: every member is what a search for its name
finds. -/
theorem same_refl (j : Json) (hj : j.hasDistinctNames) : j.same j := by
  induction j using Json.inductionOn with
  | null => rfl
  | bool b => simp [same]
  | num n => exact n.same_refl
  | str s => simp [same]
  | arr items ih =>
      rw [hasDistinctNames_arr] at hj
      refine (same_arr_iff items _).mpr ⟨items, rfl, rfl, ?_⟩
      intro i hi _
      have hmem := List.getElem_mem hi
      exact ih _ hmem (hj _ hmem)
  | obj members ih =>
      rw [hasDistinctNames_obj] at hj
      refine (same_obj_iff members _).mpr ⟨members, rfl, rfl, ?_⟩
      intro m hm
      exact ⟨m.2, Table.lookup_of_mem hj.1 hm, ih m hm (hj.2 m hm)⟩

/-- Distinct names that all occur in a list of the same length are all that occur in it. -/
private theorem names_subset_of_length_eq {names others : List String} (hnames : names.Nodup)
    (hsub : names ⊆ others) (hlength : names.length = others.length) : others ⊆ names := by
  have hperm : names.Perm others :=
    (hnames.subperm hsub).perm_of_length_le hlength.ge
  exact hperm.symm.subset

theorem same_symm {a b : Json} (ha : a.hasDistinctNames) (hb : b.hasDistinctNames)
    (h : a.same b) : b.same a := by
  induction a using Json.inductionOn generalizing b with
  | null => cases b <;> simp_all [same]
  | bool x => cases b <;> simp_all [same]
  | num m =>
      cases b with
      | num n => exact Number.same_symm h
      | _ => simp [same] at h
  | str s => cases b <;> simp_all [same]
  | arr as ih =>
      obtain ⟨bs, rfl, hlength, hitems⟩ := (same_arr_iff as b).mp h
      rw [hasDistinctNames_arr] at ha hb
      refine (same_arr_iff bs _).mpr ⟨as, rfl, hlength.symm, ?_⟩
      intro i hbs has
      have hmem := List.getElem_mem has
      exact ih _ hmem (ha _ hmem) (hb _ (List.getElem_mem hbs)) (hitems i has hbs)
  | obj as ih =>
      obtain ⟨bs, rfl, hlength, hmembers⟩ := (same_obj_iff as b).mp h
      rw [hasDistinctNames_obj] at ha hb
      have hsub : as.map (·.1) ⊆ bs.map (·.1) := by
        intro name hname
        obtain ⟨m, hm, rfl⟩ := List.mem_map.mp hname
        obtain ⟨value, hvalue, -⟩ := hmembers m hm
        exact Table.mem_keys_of_lookup hvalue
      have hnames : bs.map (·.1) ⊆ as.map (·.1) :=
        names_subset_of_length_eq ha.1 hsub (by simpa using hlength)
      refine (same_obj_iff bs _).mpr ⟨as, rfl, hlength.symm, ?_⟩
      intro m hm
      obtain ⟨⟨name, value⟩, hmem, rfl⟩ := List.mem_map.mp (hnames (List.mem_map_of_mem hm))
      obtain ⟨found, hfound, hsame⟩ := hmembers (m.1, value) hmem
      -- The search for the name finds `m`, which has it too.
      have heq : found = m.2 :=
        Option.some.inj (hfound.symm.trans (Table.lookup_of_mem hb.1 hm))
      subst heq
      exact ⟨value, Table.lookup_of_mem ha.1 hmem,
        ih _ hmem (ha.2 _ hmem) (hb.2 m hm) hsame⟩

theorem same_trans {a b c : Json} (hab : a.same b) (hbc : b.same c) : a.same c := by
  induction a using Json.inductionOn generalizing b c with
  | null => cases b <;> cases c <;> simp_all [same]
  | bool x => cases b <;> cases c <;> simp_all [same]
  | num m =>
      cases b with
      | num n =>
          cases c with
          | num k => exact Number.same_trans hab hbc
          | _ => simp [same] at hbc
      | _ => simp [same] at hab
  | str s => cases b <;> cases c <;> simp_all [same]
  | arr as ih =>
      obtain ⟨bs, rfl, hlength, habs⟩ := (same_arr_iff as b).mp hab
      obtain ⟨cs, rfl, hlength', hbcs⟩ := (same_arr_iff bs c).mp hbc
      refine (same_arr_iff as _).mpr ⟨cs, rfl, hlength.trans hlength', ?_⟩
      intro i has hcs
      have hbs : i < bs.length := by omega
      exact ih _ (List.getElem_mem has) (habs i has hbs) (hbcs i hbs hcs)
  | obj as ih =>
      obtain ⟨bs, rfl, hlength, habs⟩ := (same_obj_iff as b).mp hab
      obtain ⟨cs, rfl, hlength', hbcs⟩ := (same_obj_iff bs c).mp hbc
      refine (same_obj_iff as _).mpr ⟨cs, rfl, hlength.trans hlength', ?_⟩
      intro m hm
      obtain ⟨y, hy, hmy⟩ := habs m hm
      obtain ⟨z, hz, hyz⟩ := hbcs (m.1, y) (Table.mem_of_lookup hy)
      exact ⟨z, hz, ih m hm hmy hyz⟩

end Json

end RouteContract
