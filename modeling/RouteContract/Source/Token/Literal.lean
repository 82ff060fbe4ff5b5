import RouteContract.Source.Token
import RouteContract.Text.Basic
import RouteContract.Text.Identifier

/-!
Literals of service source. A scan of this module answers how many characters a literal at the
start of a text takes, or none if there is no literal; `literal?` reads the value off the
characters that a scan has measured.
-/

namespace RouteContract.Source

open Text

/-- The length of the name at the start of the characters; zero if there is none. -/
def nameLength : List Char → Nat
  | [] => 0
  | c :: cs => if isIdentStart c then (cs.takeWhile isIdentContinue).length + 1 else 0

/-- A name may follow a literal directly. -/
def withSuffix (cs : List Char) (n : Nat) : Nat :=
  n + nameLength (cs.drop n)

/-- The code point between the braces of an escape, and the number of characters up to and with
the closing brace. The first argument is the value so far, the second the number of digits. -/
def codePoint? (value digits : Nat) : List Char → Option (Nat × Nat)
  | [] => none
  | c :: cs =>
    if c == '_' && digits > 0 then (codePoint? value digits cs).map fun (v, n) => (v, n + 1)
    else if c.toNat == 0x7d && digits > 0 then
      if value.isValidChar then some (value, 1) else none
    else
      match digitValue? c with
      | some d =>
        if digits == 6 then none
        else (codePoint? (value * 16 + d) (digits + 1) cs).map fun (v, n) => (v, n + 1)
      | none => none

/-- Which escapes a kind of literal knows. -/
structure Escapes where
  /-- Whether `\x` may denote any byte, and not only an ASCII character. -/
  bytes : Bool := false
  /-- Whether `\u` is known. -/
  unicode : Bool := true
  /-- Whether the character of code zero can be denoted. -/
  zero : Bool := true

/-- The code that an escape denotes and its length, for the characters after the backslash. -/
def escape? (k : Escapes) : List Char → Option (Nat × Nat)
  | [] => none
  | c :: cs =>
    let allowed (r : Option (Nat × Nat)) := r.filter fun (v, _) => k.zero || v != 0
    match c with
    | 'n' => some (0x0a, 1)
    | 'r' => some (0x0d, 1)
    | 't' => some (0x09, 1)
    | '\\' => some (0x5c, 1)
    | '\'' => some (0x27, 1)
    | '"' => some (0x22, 1)
    | '0' => allowed (some (0, 1))
    | 'x' =>
      match cs with
      | a :: b :: _ =>
        match digitValue? a, digitValue? b with
        | some h, some l => if k.bytes || h < 8 then allowed (some (h * 16 + l, 3)) else none
        | _, _ => none
      | _ => none
    | 'u' =>
      if k.unicode then
        match cs with
        | b :: cs' =>
          if b.toNat == 0x7b then allowed ((codePoint? 0 0 cs').map fun (v, n) => (v, n + 2))
          else none
        | [] => none
      else none
    | _ => none

/-- The length of the blank space that a backslash at the end of a line skips. A carriage return
in it needs its line feed, and something must follow. -/
def continuation? : List Char → Option Nat
  | [] => none
  | '\r' :: '\n' :: cs => (continuation? cs).map (· + 2)
  | '\r' :: _ => none
  | c :: cs =>
    if c == ' ' || c == '\t' || c == '\n' then (continuation? cs).map (· + 1) else some 0

/-- The length of a string after its opening quote, up to and with the closing one. The fuel
bounds the number of steps; the number of characters suffices. -/
def cookedLength? (k : Escapes) (plain : Char → Bool) : Nat → List Char → Option Nat
  | 0, _ => none
  | _, [] => none
  | fuel + 1, '\r' :: '\n' :: cs => (cookedLength? k plain fuel cs).map (· + 2)
  | fuel + 1, '\\' :: cs =>
    match cs with
    | '\n' :: _ | '\r' :: _ =>
      (continuation? cs).bind fun n => (cookedLength? k plain fuel (cs.drop n)).map (· + (n + 1))
    | _ =>
      (escape? k cs).bind fun (_, n) => (cookedLength? k plain fuel (cs.drop n)).map (· + (n + 1))
  | fuel + 1, c :: cs =>
    if c == '"' then some 1
    else if c == '\r' || !plain c then none
    else (cookedLength? k plain fuel cs).map (· + 1)

/-- The length of a raw string after its opening quote, up to and with the closing quote and its
number signs. -/
def rawLength? (hashes : Nat) (plain : Char → Bool) : List Char → Option Nat
  | [] => none
  | '\r' :: '\n' :: cs => (rawLength? hashes plain cs).map (· + 2)
  | c :: cs =>
    if c == '"' && (List.replicate hashes '#').isPrefixOf cs then some (hashes + 1)
    else if c == '\r' || !plain c then none
    else (rawLength? hashes plain cs).map (· + 1)

/-- The number signs before the opening quote of a raw string. -/
def rawHashes? (cs : List Char) : Option Nat :=
  let n := (cs.takeWhile (· == '#')).length
  if n ≤ 255 && (cs.drop n).head? == some '"' then some n else none

/-- The length of the digits, point and exponent of a real number. -/
def realLength? (cs : List Char) : Option Nat :=
  let digit (c : Char) := c.isDigit || c == '_'
  match cs with
  | [] => none
  | c :: rest =>
    if !c.isDigit then none
    else
      let n := (rest.takeWhile digit).length + 1
      let afterWhole := cs.drop n
      -- The point belongs to the number unless a range or a method call follows.
      let fraction : Option Nat :=
        match afterWhole with
        | '.' :: d :: _ =>
          if d == '.' || isIdentStart d then none
          else some (((afterWhole.drop 1).takeWhile digit).length + 1)
        | '.' :: [] => some 1
        | _ => some 0
      fraction.bind fun f =>
        let mantissa := n + f
        let exponent : Option Nat :=
          match cs.drop mantissa with
          | e :: more =>
            if e == 'e' || e == 'E' then
              let blanks := (more.takeWhile (· == '_')).length
              let sign := match more.drop blanks with
                | s :: _ => if s == '+' || s == '-' then 1 else 0
                | [] => 0
              let digits := (more.drop (blanks + sign)).takeWhile digit
              if digits.any Char.isDigit then some (1 + blanks + sign + digits.length) else none
            else none
          | [] => none
        match exponent with
        | some e => some (mantissa + e)
        | none => if f > 0 then some mantissa else none

/-- The base of a whole number and the number of characters that announce it. -/
def wholeBase : List Char → Nat × Nat
  | '0' :: 'x' :: _ => (16, 2)
  | '0' :: 'o' :: _ => (8, 2)
  | '0' :: 'b' :: _ => (2, 2)
  | _ => (10, 0)

/-- The length of the digits of a whole number, its announcement included. -/
def wholeLength? (cs : List Char) : Option Nat :=
  let (base, lead) := wholeBase cs
  let digit (c : Char) : Bool :=
    c == '_' || c.isDigit ||
      match digitValue? c with
      | some d => d < base
      | none => false
  let digits := (cs.drop lead).takeWhile digit
  let tooLarge := digits.any fun c =>
    match digitValue? c with
    | some d => d ≥ base
    | none => false
  if tooLarge || !digits.any (· != '_') || (base == 10 && digits.head? == some '_') then none
  else some (lead + digits.length)

/-- The length of a number with its suffix. -/
def numberLength? (measure : List Char → Option Nat) (cs : List Char) : Option Nat :=
  (measure cs).bind fun n =>
    let m := withSuffix cs n
    match (cs.drop m).head? with
    | some c => if isIdentContinue c then none else some m
    | none => some m

/-- The length of a quoted string, given what stands before its quote or number signs. -/
def stringLength? (k : Escapes) (plain : Char → Bool) (lead : String) (cs : List Char) :
    Option Nat :=
  (stripLead? lead.toList cs).bind fun rest =>
    match rest with
    | '"' :: body =>
      (cookedLength? k plain (body.length + 1) body).map fun n => lead.length + n + 1
    | 'r' :: body =>
      (rawHashes? body).bind fun h =>
        (rawLength? h plain (body.drop (h + 1))).map fun n => lead.length + h + n + 2
    | _ => none

/-- The length of a quoted character, given what stands before its quote. -/
def characterLength? (k : Escapes) (plain : Char → Bool) (lead : String) (cs : List Char) :
    Option Nat :=
  (stripLead? lead.toList cs).bind fun rest =>
    match rest with
    | '\'' :: '\\' :: body =>
      (escape? k body).bind fun (_, n) =>
        if (body.drop n).head? == some '\'' then some (lead.length + n + 3) else none
    | '\'' :: c :: '\'' :: _ => if plain c then some (lead.length + 3) else none
    | _ => none

def isAscii (c : Char) : Bool := c.toNat < 0x80

/-- Blank space that a backslash at the end of a line skips. -/
def isContinued (c : Char) : Bool :=
  c == ' ' || c == '\t' || c == '\n' || c == '\r'

/-- The text of a string between its quotes. -/
def cookedText : Nat → List Char → List Char
  | 0, _ => []
  | _, [] => []
  | fuel + 1, '\r' :: '\n' :: cs => '\n' :: cookedText fuel cs
  | fuel + 1, '\\' :: cs =>
    match cs with
    | '\n' :: _ | '\r' :: _ => cookedText fuel (cs.dropWhile isContinued)
    | _ =>
      match escape? {} cs with
      | some (v, n) => Char.ofNat v :: cookedText fuel (cs.drop n)
      | none => []
  | fuel + 1, c :: cs => c :: cookedText fuel cs

/-- The value of digits with underscores between them. -/
def digitsValue (base : Nat) (cs : List Char) : Nat :=
  cs.foldl (fun n c => match digitValue? c with
    | some d => n * base + d
    | none => n) 0

/-- A literal at the start of the characters, and the number of characters it takes. -/
def literal? (cs : List Char) : Option (Literal × Nat) :=
  let quotedText (n : Nat) : Literal :=
    match cs with
    | 'r' :: rest =>
      let h := (rest.takeWhile (· == '#')).length
      .text (String.ofList ((rest.drop (h + 1)).take (n - 2 * h - 3)))
    | _ => .text (String.ofList (cookedText n ((cs.drop 1).take (n - 2))))
  let characterValue : Literal :=
    match cs with
    | _ :: '\\' :: body =>
      match escape? {} body with
      | some (v, _) => .char (Char.ofNat v)
      | none => .other
    | _ :: c :: _ => .char c
    | _ => .other
  let wholeValue (n : Nat) : Literal :=
    let (base, lead) := wholeBase cs
    let size := (wholeLength? cs).getD n
    .whole (digitsValue base ((cs.drop lead).take (size - lead)))
      (String.ofList ((cs.take n).drop size))
  let suffixed (l : Literal) (n : Nat) : Literal × Nat := (l, withSuffix cs n)
  let any (_ : Char) := true
  ((stringLength? {} any "" cs).map fun n => suffixed (quotedText n) n) <|>
  ((stringLength? { bytes := true, unicode := false } isAscii "b" cs).map (suffixed .other)) <|>
  ((stringLength? { bytes := true, zero := false } (·.toNat != 0) "c" cs).map (suffixed .other)) <|>
  ((characterLength? { bytes := true, unicode := false } isAscii "b" cs).map (suffixed .other)) <|>
  ((characterLength? {} any "" cs).map (suffixed characterValue)) <|>
  ((numberLength? realLength? cs).map fun n => (.real (String.ofList (cs.take n)), n)) <|>
  ((numberLength? wholeLength? cs).map fun n => (wholeValue n, n))

end RouteContract.Source
