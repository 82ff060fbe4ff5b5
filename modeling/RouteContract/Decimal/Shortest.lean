import RouteContract.Decimal.Binary64

/-!
The fewest decimal digits that read back as the same floating-point number. The numbers that
round to a given one form an interval; the digits are found by trying grids of one, two, and at
most seventeen digits, on each of which only the two neighbours of the number can be the nearest
point of the interval.
-/

namespace RouteContract.Decimal

/-- Decimal digits and the power of ten that scales them. -/
structure Digits where
  digits : Nat
  exponent : Int
  deriving DecidableEq, Repr

/-- The least exponent `k ≤ start + fuel` with `num / den < 10 ^ (k + 1)`, from `start` on. -/
def floorLog10From (num den : Nat) (k : Int) : Nat → Int
  | 0 => k
  | fuel + 1 =>
    let above :=
      if 0 ≤ k + 1 then num < den * Nat.pow 10 (k + 1).toNat
      else num * Nat.pow 10 (-(k + 1)).toNat < den
    if above then k else floorLog10From num den (k + 1) fuel

/-- The exponent of the leading decimal digit of `num / den`. -/
def floorLog10 (num den : Nat) : Int :=
  let log2 : Int := (Nat.log2 num : Int) - (Nat.log2 den : Int)
  floorLog10From num den (Int.fdiv (log2 * 30103) 100000 - 2) 6

/-- The interval of reals that round to a number, as numerators over one denominator, with
whether its ends belong to it. -/
structure Interval where
  low : Nat
  mid : Nat
  high : Nat
  den : Nat
  closed : Bool

/-- The reals nearer to `x` than to its neighbours. Below a power of two the neighbour is only
half as far away. -/
def Binary64.interval (x : Binary64) : Interval :=
  let m := x.significand
  let q := x.exponent
  let below := if m = Nat.pow 2 52 && -1074 < q then 1 else 2
  let scale := if 0 ≤ q then Nat.pow 2 q.toNat else 1
  let den := if 0 ≤ q then 4 else 4 * Nat.pow 2 (-q).toNat
  ⟨(4 * m - below) * scale, 4 * m * scale, (4 * m + 2) * scale, den, m % 2 == 0⟩

/-- Whether `d * 10 ^ k` lies in the interval. -/
def Interval.contains (i : Interval) (d : Nat) (k : Int) : Bool :=
  let (n, den) :=
    if 0 ≤ k then (d * Nat.pow 10 k.toNat * i.den, 1) else (d * i.den, Nat.pow 10 (-k).toNat)
  if i.closed then i.low * den ≤ n && n ≤ i.high * den else i.low * den < n && n < i.high * den

/-- The grid point of step `10 ^ k` that lies in the interval nearest to its middle. -/
def Interval.pick? (i : Interval) (k : Int) : Option Nat :=
  let (n, den) :=
    if 0 ≤ k then (i.mid, i.den * Nat.pow 10 k.toNat) else (i.mid * Nat.pow 10 (-k).toNat, i.den)
  let d := n / den
  let twice := 2 * (n % den)
  match i.contains d k, i.contains (d + 1) k with
  | false, false => none
  | true, false => some d
  | false, true => some (d + 1)
  | true, true =>
    if twice < den then some d
    else if den < twice then some (d + 1)
    else some (if d % 2 = 0 then d else d + 1)

/-- Tries `count` further grids from step `10 ^ k` on. -/
def Interval.search (i : Interval) (k : Int) : Nat → Digits
  | 0 => ⟨i.mid / i.den, 0⟩
  | count + 1 =>
    match i.pick? k with
    | some d => ⟨d, k⟩
    | none => i.search (k - 1) count

/-- Digits without trailing zeros. -/
def Digits.strip (d : Digits) : Nat → Digits
  | 0 => d
  | fuel + 1 =>
    if d.digits ≠ 0 && d.digits % 10 = 0 then Digits.strip ⟨d.digits / 10, d.exponent + 1⟩ fuel
    else d

/-- The fewest digits that read back as `x`, and of these the nearest to `x`. -/
def Binary64.shortest (x : Binary64) : Digits :=
  if x.isZero then ⟨0, 0⟩
  else
    let i := x.interval
    (i.search (floorLog10 i.mid i.den) 18).strip 20

end RouteContract.Decimal
