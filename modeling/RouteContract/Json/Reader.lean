import RouteContract.Json.Basic
import RouteContract.Outline
import RouteContract.Text.Basic

/-!
Reading JSON text, in two steps. The first step finds the structure: it refuses text that is not one
JSON value with blanks around it, and keeps texts and numbers as they are written. The second step
reads the value along an outline: it refuses texts and numbers that denote nothing, and values
nested deeper than a limit, as far as the outline leads.
-/

namespace RouteContract.Json.Reader

open Decimal (Binary64)

/-- The rest of the characters after blanks between JSON tokens. -/
def skipBlanks : List Char → List Char
  | c :: rest =>
    if c == ' ' || c == '\n' || c == '\t' || c == '\r' then skipBlanks rest else c :: rest
  | [] => []

/-- The value of four hexadecimal digits. -/
def hex4? : List Char → Option (Nat × List Char)
  | a :: b :: c :: d :: rest => (Text.natOfDigits? 16 [a, b, c, d]).map (·, rest)
  | _ => none

/-- The character written by one escape, with the characters after it. A pair of surrogates is
one character, and a surrogate without its partner is refused. -/
def escape? : List Char → Option (Char × List Char)
  | '"' :: rest => some ('"', rest)
  | '\\' :: rest => some ('\\', rest)
  | '/' :: rest => some ('/', rest)
  | 'b' :: rest => some (Char.ofNat 0x08, rest)
  | 'f' :: rest => some (Char.ofNat 0x0c, rest)
  | 'n' :: rest => some ('\n', rest)
  | 'r' :: rest => some ('\r', rest)
  | 't' :: rest => some ('\t', rest)
  | 'u' :: rest => do
    let (hi, rest) ← hex4? rest
    if 0xd800 ≤ hi && hi < 0xdc00 then
      match rest with
      | '\\' :: 'u' :: rest =>
        let (lo, rest) ← hex4? rest
        if 0xdc00 ≤ lo && lo < 0xe000 then
          some (Char.ofNat (0x10000 + (hi - 0xd800) * 0x400 + (lo - 0xdc00)), rest)
        else none
      | _ => none
    else if 0xdc00 ≤ hi && hi < 0xe000 then none
    else some (Char.ofNat hi, rest)
  | _ => none

/-- The length of an escape after its backslash, whatever it denotes. -/
def escapeLength? : List Char → Option Nat
  | 'u' :: rest => (hex4? rest).map fun _ => 5
  | c :: _ => if "\"\\/bfnrt".toList.contains c then some 1 else none
  | [] => none

/-- The written characters of a text up to its closing quote, and the characters after it; `fuel`
bounds their number. -/
def textBody? (acc : List Char) : Nat → List Char → Option (List Char × List Char)
  | 0, _ => none
  | _ + 1, [] => none
  | _ + 1, '"' :: rest => some (acc.reverse, rest)
  | fuel + 1, '\\' :: rest => do
    let n ← escapeLength? rest
    textBody? ((rest.take n).reverse ++ '\\' :: acc) fuel (rest.drop n)
  | fuel + 1, c :: rest => if c.toNat < 0x20 then none else textBody? (c :: acc) fuel rest

/-- The characters that written ones denote; `fuel` bounds their number. -/
def unescape? (acc : List Char) : Nat → List Char → Option String
  | 0, _ => none
  | _ + 1, [] => some (String.ofList acc.reverse)
  | fuel + 1, '\\' :: rest => do
    let (c, rest) ← escape? rest
    unescape? (c :: acc) fuel rest
  | fuel + 1, c :: rest => unescape? (c :: acc) fuel rest

/-- The text that written characters denote. -/
def text? (written : List Char) : Option String :=
  unescape? [] (written.length + 1) written

/-- A number as it is written: digits that still count, and the power of ten they are scaled by.
Digits beyond 64 bits only move the scale. -/
structure Written where
  significand : Nat
  scale : Int
  full : Bool

def Written.digit (w : Written) (c : Char) (fraction : Bool) : Written :=
  let next := w.significand * 10 + (c.toNat - '0'.toNat)
  if w.full || Nat.pow 2 64 ≤ next then
    { w with full := true, scale := if fraction then w.scale else w.scale + 1 }
  else { w with significand := next, scale := if fraction then w.scale - 1 else w.scale }

/-- The number nearest to a rounded significand scaled by a rounded power of ten. -/
def scaled? (negative : Bool) (significand : Nat) (scale : Int) : Option Binary64 :=
  if significand = 0 || scale < -400 then Binary64.ofRatio? negative 0 1
  else if 400 < scale then none
  else do
    let s ← Binary64.ofRatio? false significand 1
    let (n, d) := s.ratio
    if 0 ≤ scale then
      let p ← Binary64.ofDecimal? false 1 scale
      Binary64.ofRatio? negative (n * p.ratio.1) (d * p.ratio.2)
    else
      let p ← Binary64.ofDecimal? false 1 (-(max scale (-308)))
      let q ← Binary64.ofRatio? false (n * p.ratio.2) (d * p.ratio.1)
      if -308 ≤ scale then some (if negative then ⟨q.bits + 0x8000000000000000⟩ else q)
      else
        let p ← Binary64.ofDecimal? false 1 (-(scale + 308))
        Binary64.ofRatio? negative (q.ratio.1 * p.ratio.2) (q.ratio.2 * p.ratio.1)

/-- The parts of a written number. -/
structure Numeral where
  negative : Bool
  whole : List Char
  fraction : Option (List Char)
  exponent : Option Int

/-- The number that a numeral denotes; none if it is too large. -/
def Numeral.number? (n : Numeral) : Option Number :=
  let w := n.whole.foldl (fun w c => w.digit c false) (⟨0, 0, false⟩ : Written)
  if n.fraction.isNone && n.exponent.isNone && !w.full &&
      !(n.negative && (w.significand = 0 || Nat.pow 2 63 < w.significand)) then
    some (.int (if n.negative then -w.significand else w.significand))
  else
    let w := (n.fraction.getD []).foldl (fun w c => w.digit c true) w
    (scaled? n.negative w.significand (w.scale + n.exponent.getD 0)).map .float

/-- The exponent part of a number, if there is one. -/
def exponent? (cs : List Char) : Option (Option Int × List Char) :=
  match cs with
  | e :: rest =>
    if e == 'e' || e == 'E' then
      let (negative, rest) :=
        match rest with
        | '+' :: rest => (false, rest)
        | '-' :: rest => (true, rest)
        | _ => (false, rest)
      let digits := rest.takeWhile Char.isDigit
      (Text.natOfDigits? 10 digits).map fun n =>
        (some (if negative then -(n : Int) else n), rest.dropWhile Char.isDigit)
    else some (none, cs)
  | [] => some (none, cs)

def numeral? (cs : List Char) : Option (Numeral × List Char) := do
  let (negative, cs) := match cs with
    | '-' :: rest => (true, rest)
    | _ => (false, cs)
  let whole := cs.takeWhile Char.isDigit
  let cs := cs.dropWhile Char.isDigit
  if whole.isEmpty || (whole.head? == some '0' && 1 < whole.length) then none
  else
    let (fraction, cs) ← match cs with
      | '.' :: rest =>
        let digits := rest.takeWhile Char.isDigit
        if digits.isEmpty then none else some (some digits, rest.dropWhile Char.isDigit)
      | _ => some (none, cs)
    let (exponent, cs) ← exponent? cs
    some (⟨negative, whole, fraction, exponent⟩, cs)

/-- A JSON value as it is written. -/
inductive Raw where
  | null
  | bool (value : Bool)
  | num (written : Numeral)
  | str (written : List Char)
  | arr (items : List Raw)
  | obj (members : List (List Char × Raw))

mutual

/-- One value; `fuel` bounds the steps. -/
def value? : Nat → List Char → Option (Raw × List Char)
  | 0, _ => none
  | fuel + 1, cs =>
    match skipBlanks cs with
    | 'n' :: 'u' :: 'l' :: 'l' :: rest => some (.null, rest)
    | 't' :: 'r' :: 'u' :: 'e' :: rest => some (.bool true, rest)
    | 'f' :: 'a' :: 'l' :: 's' :: 'e' :: rest => some (.bool false, rest)
    | '"' :: rest => (textBody? [] (rest.length + 1) rest).map fun (s, rest) => (.str s, rest)
    | '[' :: rest =>
      match skipBlanks rest with
      | ']' :: rest => some (.arr [], rest)
      | rest => (items? fuel rest []).map fun (xs, rest) => (.arr xs, rest)
    | c :: rest =>
      if c.toNat = 0x7b then
        match skipBlanks rest with
        | c :: rest =>
          if c.toNat = 0x7d then some (.obj [], rest)
          else (members? fuel (c :: rest) []).map fun (ms, rest) => (.obj ms, rest)
        | [] => none
      else (numeral? (c :: rest)).map fun (n, rest) => (.num n, rest)
    | [] => none

/-- The items of an array from one of them on. -/
def items? : Nat → List Char → List Raw → Option (List Raw × List Char)
  | 0, _, _ => none
  | fuel + 1, cs, acc => do
    let (j, cs) ← value? fuel cs
    match skipBlanks cs with
    | ',' :: rest => items? fuel rest (j :: acc)
    | ']' :: rest => some ((j :: acc).reverse, rest)
    | _ => none

/-- The members of an object from one of them on. -/
def members? : Nat → List Char → List (List Char × Raw) →
    Option (List (List Char × Raw) × List Char)
  | 0, _, _ => none
  | fuel + 1, cs, acc =>
    match skipBlanks cs with
    | '"' :: rest => do
      let (name, rest) ← textBody? [] (rest.length + 1) rest
      match skipBlanks rest with
      | ':' :: rest => do
        let (j, rest) ← value? fuel rest
        match skipBlanks rest with
        | c :: rest =>
          if c == ',' then members? fuel rest ((name, j) :: acc)
          else if c.toNat = 0x7d then some (((name, j) :: acc).reverse, rest)
          else none
        | [] => none
      | _ => none
    | _ => none

end

/-- The value that text holds, as it is written. -/
def raw? (s : String) : Option Raw := do
  let cs := s.toList
  let (j, rest) ← value? (cs.length + 1) cs
  if (skipBlanks rest).isEmpty then some j else none

/-- How a member joins those before it. -/
abbrev AddMember := String → Json → List (String × Json) → List (String × Json)

/-- Keeps members with equal names apart. -/
def appendMember : AddMember := fun name j members => members ++ [(name, j)]

mutual

/-- The value that a written one denotes, read along an outline from a state on and nested at most
`depth` deep; `add` adds a member to those before it. The names of all members are read, also of
those that are skipped. -/
def Raw.read? {σ : Type} (o : Outline σ) (add : AddMember) : σ → Nat → Raw → Option Json
  | _, _, .null => some .null
  | _, _, .bool b => some (.bool b)
  | _, _, .num n => n.number?.map .num
  | _, _, .str written => (text? written).map .str
  | state, depth, .arr items =>
    if depth = 0 then none else (readItems? o add state (depth - 1) 0 items).map .arr
  | state, depth, .obj members =>
    if depth = 0 then none else (readMembers? o add state (depth - 1) [] members).map .obj

def readItems? {σ : Type} (o : Outline σ) (add : AddMember) (state : σ) (depth : Nat) :
    Nat → List Raw → Option (List Json)
  | _, [] => some []
  | position, r :: rest =>
    match o.item state position with
    | none => readItems? o add state depth (position + 1) rest
    | some inner => do
      let j ← Raw.read? o add inner depth r
      let js ← readItems? o add state depth (position + 1) rest
      some (j :: js)

def readMembers? {σ : Type} (o : Outline σ) (add : AddMember) (state : σ) (depth : Nat) :
    List (String × Json) → List (List Char × Raw) → Option (List (String × Json))
  | acc, [] => some acc
  | acc, (written, r) :: rest => do
    let name ← text? written
    match o.member state name with
    | none => readMembers? o add state depth acc rest
    | some inner =>
      let j ← Raw.read? o add inner depth r
      readMembers? o add state depth (add name j acc) rest

end

end Reader

/-- The deepest nesting that is read from text. -/
def nestingLimit : Nat := 127

/-- Reads one JSON value nested at most `depth` deep; of members with equal names the last
counts. -/
def parseWithin? (depth : Nat) (s : String) : Option Json :=
  (Reader.raw? s).bind (Reader.Raw.read? .whole setMember () depth)

/-- Reads one JSON value. -/
def parse? (s : String) : Option Json :=
  parseWithin? nestingLimit s

/-- Reads one JSON value along an outline and keeps members with equal names apart. -/
def parseAlong? {σ : Type} (o : Outline σ) (start : σ) (s : String) : Option Json :=
  (Reader.raw? s).bind (Reader.Raw.read? o Reader.appendMember start nestingLimit)

end RouteContract.Json
