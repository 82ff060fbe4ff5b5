import RouteContract.Decimal.Shortest
import RouteContract.Text.Basic

/-!
How a floating-point number is written. A format decides for which positions of the point the
digits are written out and how an exponent is marked.
-/

namespace RouteContract.Decimal

/-- The decisions of a number format. -/
structure NumberFormat where
  /-- The point may stand after at most this many digits. -/
  longest : Nat
  /-- At most this many zeros may stand between the point and the first digit. -/
  leadingZeros : Nat
  /-- What marks an exponent that is not negative. -/
  positiveMark : String

/-- Digits with the point placed so that `point` digits stand before it. -/
def positional (digits : List Char) (point : Int) : String :=
  if point ≤ 0 then
    "0." ++ Text.repeated (-point).toNat '0' ++ String.ofList digits
  else if digits.length ≤ point.toNat then
    String.ofList digits ++ Text.repeated (point.toNat - digits.length) '0' ++ ".0"
  else
    String.ofList (digits.take point.toNat) ++ "." ++ String.ofList (digits.drop point.toNat)

/-- Digits as a number of one digit before the point, scaled by a power of ten. -/
def scientific (f : NumberFormat) (digits : List Char) (power : Int) : String :=
  let mantissa :=
    match digits with
    | [] => "0"
    | [d] => String.singleton d
    | d :: ds => String.singleton d ++ "." ++ String.ofList ds
  mantissa ++ (if power < 0 then "e-" else f.positiveMark) ++ toString power.natAbs

/-- The text of a number in a format. -/
def NumberFormat.render (f : NumberFormat) (x : Binary64) : String :=
  let sign := if x.isNegative then "-" else ""
  if x.isZero then sign ++ "0.0"
  else
    let d := x.shortest
    let digits := Nat.toDigits 10 d.digits
    let point := digits.length + d.exponent
    if point ≤ f.longest && -(f.leadingZeros : Int) ≤ point then sign ++ positional digits point
    else sign ++ scientific f digits (point - 1)

end RouteContract.Decimal
