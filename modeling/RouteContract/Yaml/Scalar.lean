import RouteContract.Decimal.Binary64
import RouteContract.Text.Basic

/-!
What a plain YAML scalar means. A scalar that no rule claims is text; digits with a leading zero
are text too, since they are no number by the core schema.
-/

namespace RouteContract.Yaml

open Decimal (Binary64)

/-- The meaning of a scalar. Integers that do not fit 64 bits are kept apart: a JSON value cannot
hold them. -/
inductive Scalar where
  | null
  | bool (value : Bool)
  | int (value : Int)
  | wideInt
  | float (value : Binary64)
  | infinite
  | notANumber
  | text (value : String)
  deriving DecidableEq, Repr

def isNullWord (s : String) : Bool :=
  s == "null" || s == "Null" || s == "NULL" || s == "~"

def boolWord? (s : String) : Option Bool :=
  if s == "true" || s == "True" || s == "TRUE" then some true
  else if s == "false" || s == "False" || s == "FALSE" then some false
  else none

/-- Several digits of which the first is zero, after an optional sign. -/
def isZeroLed : List Char → Bool
  | '-' :: cs | '+' :: cs | cs =>
    match cs with
    | '0' :: c :: rest => (c :: rest).all Char.isDigit
    | _ => false

/-- Digits of a base after its mark. -/
def markedNat? (mark : List Char) (base : Nat) (cs : List Char) : Option Nat :=
  (Text.stripLead? mark cs).bind (Text.natOfDigits? base)

/-- The magnitude of an unsigned number: hexadecimal, octal, binary or decimal digits. -/
def magnitude? (cs : List Char) : Option Nat :=
  markedNat? ['0', 'x'] 16 cs <|> markedNat? ['0', 'o'] 8 cs <|> markedNat? ['0', 'b'] 2 cs <|>
    (if isZeroLed cs then none else Text.natOfDigits? 10 cs)

/-- The integer that a scalar denotes, if it fits 128 bits. -/
def integer? (cs : List Char) : Option Int :=
  let signed := match cs with
    | '-' :: rest => (magnitude? rest).map fun n => -(n : Int)
    | '+' :: rest => (magnitude? rest).map fun n => (n : Int)
    | _ => (magnitude? cs).map fun n => (n : Int)
  signed.filter fun i => -(Nat.pow 2 127 : Int) ≤ i && i < (Nat.pow 2 128 : Int)

/-- Digits, an optional point and an optional exponent; at least one digit before the exponent. -/
def decimal? (negative : Bool) (cs : List Char) : Option Binary64 :=
  let whole := cs.takeWhile Char.isDigit
  let rest := cs.dropWhile Char.isDigit
  let (fraction, rest) := match rest with
    | '.' :: rest => (rest.takeWhile Char.isDigit, rest.dropWhile Char.isDigit)
    | _ => ([], rest)
  let digits := whole ++ fraction
  let exponent : Option Int := match rest with
    | [] => some 0
    | e :: rest =>
      if e == 'e' || e == 'E' then
        match rest with
        | '-' :: ds => (Text.natOfDigits? 10 ds).map fun n => -(n : Int)
        | '+' :: ds => (Text.natOfDigits? 10 ds).map fun n => (n : Int)
        | ds => (Text.natOfDigits? 10 ds).map fun n => (n : Int)
      else none
  match Text.natOfDigits? 10 digits, exponent with
  | some n, some e => Binary64.ofDecimal? negative n (e - fraction.length)
  | _, _ => none

/-- The floating-point number that a scalar denotes; a number out of range is none. -/
def float? (s : String) : Option Scalar :=
  let cs := s.toList
  let unsigned := match cs with
    | '+' :: rest => rest
    | _ => cs
  let word := String.ofList unsigned
  if word == ".inf" || word == ".Inf" || word == ".INF" then some .infinite
  else if s == "-.inf" || s == "-.Inf" || s == "-.INF" then some .infinite
  else if s == ".nan" || s == ".NaN" || s == ".NAN" then some .notANumber
  else
    match cs with
    | '-' :: rest => (decimal? true rest).map .float
    | _ => (decimal? false unsigned).map .float

/-- An integer scalar, by whether it fits 64 bits. -/
def Scalar.ofInteger (i : Int) : Scalar :=
  if -(Nat.pow 2 63 : Int) ≤ i && i < (Nat.pow 2 64 : Int) then .int i else .wideInt

/-- The meaning of a plain scalar. -/
def Scalar.ofPlain (s : String) : Scalar :=
  if s.isEmpty || isNullWord s then .null
  else
    match boolWord? s with
    | some b => .bool b
    | none =>
      match integer? s.toList with
      | some i => .ofInteger i
      | none => if isZeroLed s.toList then .text s else (float? s).getD (.text s)

/-- The meaning of a scalar under one of the standard tags; none if its text does not fit. -/
def Scalar.ofTagged? (tag s : String) : Option Scalar :=
  match tag with
  | "bool" => (boolWord? s).map .bool
  | "int" => (integer? s.toList).map .ofInteger
  | "float" => float? s
  | "null" => if isNullWord s then some .null else none
  | _ => some (.text s)

end RouteContract.Yaml
