import RouteContract.Text.Casing
import RouteContract.Text.Letter

/-!
Names cut into words and joined again in one of the usual naming styles. A word ends at a
character that is neither letter nor digit, before an upper-case character that follows a
lower-case one (`unitPrice`), and before the last of several upper-case characters when a
lower-case one follows it (`HTTPCode` is `HTTP` and `Code`).
-/

namespace RouteContract.Text

/-- What the letters of the current word have shown so far. -/
inductive WordMode where
  | boundary
  | lowercase
  | uppercase
  deriving DecidableEq

/-- The mode after a further character of the same word. -/
def WordMode.after (mode : WordMode) (c : Char) : WordMode :=
  if isLowercase c then .lowercase else if isUppercase c then .uppercase else mode

/-- Words of a run of letters and digits; `word` holds the current word reversed. -/
def runWords (word : List Char) (mode : WordMode) : List Char → List (List Char)
  | [] => if word.isEmpty then [] else [word.reverse]
  | [c] => [(c :: word).reverse]
  | c :: next :: rest =>
    if mode.after c = .lowercase && isUppercase next then
      (c :: word).reverse :: runWords [] .boundary (next :: rest)
    else if mode = .uppercase && isUppercase c && isLowercase next then
      word.reverse :: runWords [c] .boundary (next :: rest)
    else
      runWords (c :: word) (mode.after c) (next :: rest)

/-- The maximal runs of letters and digits. -/
def alphanumericRunsOf : List Char → List (List Char)
  | [] => [[]]
  | c :: rest =>
    match alphanumericRunsOf rest with
    | [] => [[c]]
    | run :: runs => if isAlphanumeric c then (c :: run) :: runs else [] :: run :: runs

/-- The words of a name. -/
def words (s : String) : List (List Char) :=
  (alphanumericRunsOf s.toList).flatMap (runWords [] .boundary)

/-- A word in lower case; a capital sigma at its end takes the final form. -/
def lowerWord : List Char → List Char
  | [] => []
  | [c] => if c == 'Σ' then ['ς'] else lowerChar c
  | c :: rest => lowerChar c ++ lowerWord rest

def upperWord (word : List Char) : List Char :=
  word.flatMap upperChar

def capitalizeWord : List Char → List Char
  | [] => []
  | c :: rest => upperChar c ++ lowerWord rest

private def joinWords (sep : List Char) (ws : List (List Char)) : String :=
  String.ofList (sep.intercalate ws)

/-- `unit_price` as `unitPrice`. -/
def lowerCamel (s : String) : String :=
  match words s with
  | [] => ""
  | w :: ws => String.ofList (lowerWord w ++ ws.flatMap capitalizeWord)

/-- `unit_price` as `UnitPrice`. -/
def upperCamel (s : String) : String :=
  String.ofList ((words s).flatMap capitalizeWord)

/-- `unitPrice` as `unit_price`, with the given separator. -/
def lowerJoined (sep : Char) (s : String) : String :=
  joinWords [sep] ((words s).map lowerWord)

/-- `unitPrice` as `UNIT_PRICE`, with the given separator. -/
def upperJoined (sep : Char) (s : String) : String :=
  joinWords [sep] ((words s).map upperWord)

end RouteContract.Text
