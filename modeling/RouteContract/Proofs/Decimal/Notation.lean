import Mathlib.Tactic
import RouteContract.Json.Printer

/-!
The text of a number has at most one point. A text with two, such as a version, is therefore no
number, and since all other JSON text begins with a bracket, a quote or a letter, only a text reads
as a version.
-/

namespace RouteContract

/-- How many points a text has. -/
def Text.points (s : String) : Nat :=
  s.toList.count '.'

namespace Text

@[simp] theorem points_append (a b : String) : points (a ++ b) = points a + points b := by
  simp [points]

@[simp] theorem points_ofList (cs : List Char) : points (String.ofList cs) = cs.count '.' := by
  simp [points]

@[simp] theorem points_repeated_zero (n : Nat) : points (repeated n '0') = 0 := by
  simp [points, repeated, List.count_replicate]

@[simp] theorem points_singleton (c : Char) : points (String.singleton c) = [c].count '.' := by
  simp [points]

end Text

namespace Decimal

theorem count_point_toDigits (n : Nat) : (Nat.toDigits 10 n).count '.' = 0 := by
  apply List.count_eq_zero.mpr
  intro hmem
  have hdigit := Nat.isDigit_of_mem_toDigits (by decide) (by decide) hmem
  exact absurd hdigit (by decide)

theorem points_repr (n : Nat) : Text.points n.repr = 0 := by
  rw [Text.points, Nat.toList_repr, count_point_toDigits]

theorem points_positional {digits : List Char} (h : digits.count '.' = 0) (point : Int) :
    Text.points (positional digits point) = 1 := by
  have hzero : Text.points "0." = 1 := by decide
  have hend : Text.points ".0" = 1 := by decide
  have hpoint : Text.points "." = 1 := by decide
  unfold positional
  split
  · simp [hzero, h]
  · split
    · simp [hend, h]
    · have hparts : (digits.take point.toNat).count '.' + (digits.drop point.toNat).count '.' =
          0 := by
        rw [← List.count_append, List.take_append_drop, h]
      simp only [Text.points_append, Text.points_ofList, hpoint]
      omega

theorem points_scientific {f : NumberFormat} (hmark : Text.points f.positiveMark = 0)
    {digits : List Char} (h : digits.count '.' = 0) (power : Int) :
    Text.points (scientific f digits power) ≤ 1 := by
  have hnegative : Text.points "e-" = 0 := by decide
  have hzero : Text.points "0" = 0 := by decide
  have hpoint : Text.points "." = 1 := by decide
  have hsign : Text.points (if power < 0 then "e-" else f.positiveMark) = 0 := by
    split
    · exact hnegative
    · exact hmark
  have hpower : Text.points (toString power.natAbs) = 0 := points_repr _
  unfold scientific
  simp only [Text.points_append, hsign, hpower, Nat.add_zero]
  match digits with
  | [] => simp [hzero]
  | [d] => simp [h]
  | d :: e :: ds =>
      have hsplit : [d].count '.' + (e :: ds).count '.' = 0 := by
        rw [← List.count_append]
        exact h
      simp only [Text.points_append, Text.points_ofList, Text.points_singleton, hpoint]
      omega

theorem points_render {f : NumberFormat} (hmark : Text.points f.positiveMark = 0) (x : Binary64) :
    Text.points (f.render x) ≤ 1 := by
  have hsign : Text.points (if x.isNegative then "-" else "") = 0 := by
    split <;> decide
  have hzero : Text.points "0.0" = 1 := by decide
  have hdigits := count_point_toDigits x.shortest.digits
  unfold NumberFormat.render
  dsimp only
  split
  · simp [hsign, hzero]
  · split
    · simp [hsign, points_positional hdigits]
    · have hscientific := points_scientific hmark hdigits
        ((Nat.toDigits 10 x.shortest.digits).length + x.shortest.exponent - 1)
      simp only [Text.points_append, hsign]
      omega

end Decimal

namespace Json

theorem points_renderNumber (n : Number) : Text.points (renderNumber n) ≤ 1 := by
  cases n with
  | int i =>
      cases i with
      | ofNat m =>
          have hdigits := Decimal.points_repr m
          change Text.points m.repr ≤ 1
          omega
      | negSucc m =>
          have hdigits := Decimal.points_repr m.succ
          have hsign : Text.points "-" = 0 := by decide
          change Text.points ("-" ++ m.succ.repr) ≤ 1
          rw [Text.points_append]
          omega
  | float x => exact Decimal.points_render (by decide) x

/-- A value that is not the text of the version is not written like it. -/
theorem compact_ne_formatVersion {j : Json} (h : j.asText? = none) : j.compact ≠ "3.1.0" := by
  intro heq
  have hchars := congrArg String.toList heq
  cases j with
  | null => simp [compact] at hchars
  | bool b => cases b <;> simp [compact] at hchars
  | num n =>
      have hpoints := points_renderNumber n
      have htwo : Text.points "3.1.0" = 2 := by decide
      rw [compact] at heq
      rw [heq, htwo] at hpoints
      omega
  | str s => cases h
  | arr items => simp [compact, String.toList_append] at hchars
  | obj members => simp [compact, String.toList_append] at hchars

end Json

end RouteContract
