import Mathlib.Data.Nat.Digits.Defs
import Mathlib.Tactic
import RouteContract.Text.Basic

/-!
Digits: what a digit stands for, and that the digits of a number are read as the number.
-/

namespace RouteContract.Text

theorem digitValue?_digitChar {d : Nat} (h : d < 16) : digitValue? d.digitChar = some d := by
  revert d
  decide

/-- The digits of a number are those below the base. -/
theorem exists_of_mem_toDigits {base n : Nat} {c : Char} (hbase : 1 < base)
    (h : c ∈ Nat.toDigits base n) : ∃ d < base, c = d.digitChar := by
  induction n using Nat.strongRecOn with
  | _ n ih =>
    rw [Nat.toDigits_eq_if hbase] at h
    split at h
    · next hsmall => exact ⟨n, hsmall, List.mem_singleton.mp h⟩
    · next hlarge =>
      rcases List.mem_append.mp h with h | h
      · exact ih (n / base) (Nat.div_lt_self (by omega) hbase) h
      · exact ⟨n % base, Nat.mod_lt _ (by omega), List.mem_singleton.mp h⟩

theorem ne_of_isDigit {c other : Char} (hc : c.isDigit = true) (hother : other.isDigit = false) :
    c ≠ other := by
  rintro rfl
  rw [hc] at hother
  cases hother

theorem digitValue?_of_isDigit {c : Char} (h : c.isDigit) :
    digitValue? c = some (c.toNat - '0'.toNat) ∧ c.toNat - '0'.toNat < 10 := by
  have hrange : 48 ≤ c.toNat ∧ c.toNat ≤ 57 := by
    simpa [Char.isDigit, UInt32.le_iff_toNat_le] using h
  refine ⟨by rw [digitValue?, if_pos h], ?_⟩
  have hzero : '0'.toNat = 48 := rfl
  omega

theorem natOfDigits?_toDigits (n : Nat) : natOfDigits? 10 (Nat.toDigits 10 n) = some n := by
  have hread (cs : List Char) (hcs : ∀ c ∈ cs, c.isDigit) (m : Nat) :
      cs.foldl (fun acc c => acc.bind fun n => (digitValue? c).bind fun d =>
        if d < 10 then some (n * 10 + d) else none) (some m) = some (Nat.ofDigitChars 10 cs m) := by
    induction cs generalizing m with
    | nil => rfl
    | cons c cs ih =>
        rw [List.forall_mem_cons] at hcs
        obtain ⟨hvalue, hlt⟩ := digitValue?_of_isDigit hcs.1
        rw [List.foldl_cons, Option.bind_some, hvalue, Option.bind_some, if_pos hlt, ih hcs.2,
          Nat.ofDigitChars_cons, Nat.mul_comm]
  have hdigits : ∀ c ∈ Nat.toDigits 10 n, c.isDigit := fun c =>
    Nat.isDigit_of_mem_toDigits (by decide) (by decide)
  rw [natOfDigits?, if_neg (by simp), hread _ hdigits,
    Nat.ofDigitChars_ten_toDigits]

end RouteContract.Text
