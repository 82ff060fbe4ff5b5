import Mathlib.Tactic
import RouteContract.Text.Basic

/-!
Splitting a text at a character: the pieces are the one way to write the text as texts without that
character, joined by it.
-/

namespace RouteContract.Text

theorem splitChars_eq_splitOn (sep : Char) (cs : List Char) :
    splitChars sep cs = cs.splitOn sep := by
  induction cs with
  | nil => rfl
  | cons c rest ih =>
      rw [splitChars, ih, List.splitOn_cons_eq_if_modifyHead]
      cases hrest : rest.splitOn sep with
      | nil => exact absurd hrest (List.splitOn_ne_nil sep rest)
      | cons piece pieces => rfl

theorem not_mem_of_mem_splitChars {sep : Char} {cs piece : List Char}
    (h : piece ∈ splitChars sep cs) : sep ∉ piece := by
  induction cs generalizing piece with
  | nil =>
      rw [splitChars, List.mem_singleton] at h
      simp [h]
  | cons c rest ih =>
      rw [splitChars] at h
      cases hrest : splitChars sep rest with
      | nil => exact absurd (splitChars_eq_splitOn sep rest ▸ hrest) (List.splitOn_ne_nil sep rest)
      | cons first pieces =>
          simp only [hrest] at h ih
          split at h
          · rcases List.mem_cons.mp h with rfl | h
            · exact List.not_mem_nil
            · exact ih h
          · next hsep =>
            rcases List.mem_cons.mp h with rfl | h
            · have hfirst := ih List.mem_cons_self
              intro hmem
              rcases List.mem_cons.mp hmem with rfl | hmem
              · exact hsep BEq.rfl
              · exact hfirst hmem
            · exact ih (List.mem_cons_of_mem _ h)

theorem eq_split_iff (sep : Char) (s : String) (pieces : List String) :
    pieces = split sep s ↔ pieces ≠ [] ∧ (∀ piece ∈ pieces, sep ∉ piece.toList) ∧
      (String.singleton sep).intercalate pieces = s := by
  constructor
  · rintro rfl
    refine ⟨?_, ?_, ?_⟩
    · rw [split, splitChars_eq_splitOn, Ne, List.map_eq_nil_iff]
      exact List.splitOn_ne_nil sep _
    · intro piece hpiece
      obtain ⟨chars, hchars, rfl⟩ := List.mem_map.mp hpiece
      rw [String.toList_ofList]
      exact not_mem_of_mem_splitChars hchars
    · have hchars : ((splitChars sep s.toList).map String.ofList).map String.toList =
          s.toList.splitOn sep := by
        simp [Function.comp_def, splitChars_eq_splitOn]
      apply String.toList_inj.mp
      rw [String.toList_intercalate, split, hchars, String.toList_singleton]
      exact List.intercalate_splitOn sep
  · rintro ⟨hne, hpieces, rfl⟩
    have hsplit : ([sep].intercalate (pieces.map String.toList)).splitOn sep =
        pieces.map String.toList := by
      apply List.splitOn_intercalate
      · simpa using hpieces
      · simpa using hne
    rw [split, String.toList_intercalate, splitChars_eq_splitOn, String.toList_singleton, hsplit]
    simp [Function.comp_def]

end RouteContract.Text
