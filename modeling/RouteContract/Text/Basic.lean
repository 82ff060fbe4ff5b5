/-!
Blank space, splitting and joining of texts. Texts are `String`s at every interface; the
functions here work on their characters, so that their laws are laws of lists.
-/

namespace RouteContract.Text

/-- Unicode white space. -/
def isBlank (c : Char) : Bool :=
  let n := c.toNat
  (0x09 ≤ n && n ≤ 0x0d) || n == 0x20 || n == 0x85 || n == 0xa0 || n == 0x1680 ||
    (0x2000 ≤ n && n ≤ 0x200a) || n == 0x2028 || n == 0x2029 || n == 0x202f ||
    n == 0x205f || n == 0x3000

/-- The characters with blank space removed at both ends. -/
def trimChars (cs : List Char) : List Char :=
  ((cs.dropWhile isBlank).reverse.dropWhile isBlank).reverse

/-- The text with blank space removed at both ends. -/
def trim (s : String) : String :=
  String.ofList (trimChars s.toList)

/-- A text without any character that is not blank. -/
def isBlankText (s : String) : Bool :=
  s.toList.all isBlank

/-- The pieces between occurrences of a separating character; a text without it is one piece. -/
def splitChars (sep : Char) : List Char → List (List Char)
  | [] => [[]]
  | c :: rest =>
    match splitChars sep rest with
    | [] => [[c]]
    | piece :: pieces => if c == sep then [] :: piece :: pieces else (c :: piece) :: pieces

def split (sep : Char) (s : String) : List String :=
  (splitChars sep s.toList).map String.ofList

/-- What is left after the leading text, if the characters start with it. -/
def stripLead? : List Char → List Char → Option (List Char)
  | [], cs => some cs
  | _ :: _, [] => none
  | l :: lead, c :: cs => if l == c then stripLead? lead cs else none

/-- The text without the given leading text, if it starts with it. -/
def dropLead? (lead s : String) : Option String :=
  (stripLead? lead.toList s.toList).map String.ofList

/-- The text without the given final text, if it ends with it. -/
def dropTail? (tail s : String) : Option String :=
  (stripLead? tail.toList.reverse s.toList.reverse).map fun cs => String.ofList cs.reverse

/-- Whether `part` occurs somewhere in the characters. -/
def occursIn (part : List Char) : List Char → Bool
  | [] => part.isEmpty
  | c :: cs => part.isPrefixOf (c :: cs) || occursIn part cs

/-- Whether `part` occurs somewhere in the text. -/
def contains (s part : String) : Bool :=
  occursIn part.toList s.toList

/-- The characters without the occurrences of `part`, found from left to right. The number tells how
many characters of an occurrence are still to be left out. -/
def removeChars (part : List Char) : Nat → List Char → List Char
  | _, [] => []
  | n + 1, _ :: cs => removeChars part n cs
  | 0, c :: cs =>
    if !part.isEmpty && part.isPrefixOf (c :: cs) then removeChars part (part.length - 1) cs
    else c :: removeChars part 0 cs

/-- The text without the occurrences of `part`. -/
def without (part s : String) : String :=
  String.ofList (removeChars part.toList 0 s.toList)

/-- Equality up to the case of ASCII letters. -/
def sameIgnoringCase (a b : String) : Bool :=
  a.toList.map Char.toLower == b.toList.map Char.toLower

/-- Lower-case hexadecimal digits of a number, without leading zeros. -/
def hex (n : Nat) : String :=
  String.ofList (Nat.toDigits 16 n)

/-- The value of a digit in bases up to sixteen. -/
def digitValue? (c : Char) : Option Nat :=
  if c.isDigit then some (c.toNat - '0'.toNat)
  else if 'a' ≤ c && c ≤ 'f' then some (c.toNat - 'a'.toNat + 10)
  else if 'A' ≤ c && c ≤ 'F' then some (c.toNat - 'A'.toNat + 10)
  else none

/-- The number written by one or more digits of a base. -/
def natOfDigits? (base : Nat) (cs : List Char) : Option Nat :=
  if cs.isEmpty then none
  else cs.foldl (fun acc c => acc.bind fun n =>
    (digitValue? c).bind fun d => if d < base then some (n * base + d) else none) (some 0)

/-- A text for each unit of a count. -/
def repeated (n : Nat) (c : Char) : String :=
  String.ofList (List.replicate n c)

end RouteContract.Text
