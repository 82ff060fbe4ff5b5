/-!
Finite binary floating-point numbers of 64 bits, handled in exact arithmetic. A number is kept
by its bits; `significand * 2 ^ exponent` is its magnitude. `ofRatio?` rounds a quotient to the
nearest number, and a half to the even one.
-/

namespace RouteContract.Decimal

/-- A floating-point number of 64 bits, given by its sign, exponent and fraction bits. -/
structure Binary64 where
  bits : UInt64
  deriving DecidableEq, Repr, Inhabited

namespace Binary64

def isNegative (x : Binary64) : Bool :=
  Nat.pow 2 63 ≤ x.bits.toNat

/-- The bits without the sign. -/
def magnitudeBits (x : Binary64) : Nat :=
  x.bits.toNat % Nat.pow 2 63

/-- The integer that is scaled by a power of two. -/
def significand (x : Binary64) : Nat :=
  let fraction := x.magnitudeBits % Nat.pow 2 52
  if x.magnitudeBits < Nat.pow 2 52 then fraction else fraction + Nat.pow 2 52

/-- The power of two that scales the significand. -/
def exponent (x : Binary64) : Int :=
  (max (x.magnitudeBits / Nat.pow 2 52) 1 : Nat) - 1075

def isZero (x : Binary64) : Bool :=
  x.magnitudeBits == 0

/-- Equality of values: the two zeros are equal. -/
def same (x y : Binary64) : Bool :=
  x == y || (x.isZero && y.isZero)

/-- `num / den` to the nearest integer, a half to the even one. -/
def roundDiv (num den : Nat) : Nat :=
  let quotient := num / den
  let twice := 2 * (num % den)
  if twice < den then quotient
  else if den < twice then quotient + 1
  else if quotient % 2 = 0 then quotient else quotient + 1

/-- `num * 2 ^ (-q)` over `den`, as a pair of naturals. -/
def scaleRatio (num den : Nat) (q : Int) : Nat × Nat :=
  if 0 ≤ q then (num, den * Nat.pow 2 q.toNat) else (num * Nat.pow 2 (-q).toNat, den)

/-- The number nearest to `num / den`; none if that is beyond the largest one. -/
def ofRatio? (negative : Bool) (num den : Nat) : Option Binary64 :=
  let sign : Nat := if negative then Nat.pow 2 63 else 0
  if num = 0 then some ⟨sign.toUInt64⟩
  else
    let low : Int := (Nat.log2 num : Int) - (Nat.log2 den : Int) - 53
    let (n₀, d₀) := scaleRatio num den low
    let q := max (if Nat.pow 2 53 ≤ n₀ / d₀ then low + 1 else low) (-1074)
    let (n, d) := scaleRatio num den q
    let m := roundDiv n d
    let (m, q) := if m = Nat.pow 2 53 then (Nat.pow 2 52, q + 1) else (m, q)
    if 971 < q then none
    else if m < Nat.pow 2 52 then some ⟨(sign + m).toUInt64⟩
    else some ⟨(sign + (q + 1075).toNat * Nat.pow 2 52 + (m - Nat.pow 2 52)).toUInt64⟩

/-- The number nearest to `digits * 10 ^ exponent`; none if that is beyond the largest one.
Exponents so far out that the answer cannot depend on the digits are settled first. -/
def ofDecimal? (negative : Bool) (digits : Nat) (exponent : Int) : Option Binary64 :=
  let width : Int := (Nat.toDigits 10 digits).length
  if digits = 0 || exponent + width < -330 then ofRatio? negative 0 1
  else if 310 < exponent + width then none
  else if 0 ≤ exponent then ofRatio? negative (digits * Nat.pow 10 exponent.toNat) 1
  else ofRatio? negative digits (Nat.pow 10 (-exponent).toNat)

/-- The magnitude as a quotient of naturals. -/
def ratio (x : Binary64) : Nat × Nat :=
  if 0 ≤ x.exponent then (x.significand * Nat.pow 2 x.exponent.toNat, 1)
  else (x.significand, Nat.pow 2 (-x.exponent).toNat)

end Binary64

end RouteContract.Decimal
