/-!
How the words after a command are read. A word that starts with a dash names options, any other is
a value: of the option before it if that waits for one, else the command's operand. After a double
dash every word is a value. A value is checked when the next word shows that it is complete, so a
word that cannot be read at all is reported before a value that cannot be accepted.
-/

namespace RouteContract.CommandLine

/-- Why words are not a command. -/
inductive UsageError where
  | displayHelp
  | displayVersion
  /-- Nothing is given, so help is shown. -/
  | nothingGiven
  | missingCommand
  | unknownCommand
  | missingOperand
  | unknownOption
  /-- A value is missing or cannot be accepted. -/
  | badValue
  | repeatedOption
  /-- A value is given to an option that takes none. -/
  | needlessValue
  deriving DecidableEq, Repr, Inhabited

/-- What values an option or operand takes. -/
inductive ValueKind where
  | text
  | path
  | choice (words : List String)
  deriving DecidableEq, Repr, Inhabited

def ValueKind.accepts : ValueKind → String → Bool
  | text, _ => true
  | path, value => !value.isEmpty
  | choice words, value => words.contains value

/-- What an option does. -/
inductive Effect where
  | flag
  | value (kind : ValueKind)
  | help
  | version
  deriving DecidableEq, Repr, Inhabited

structure OptionSpec where
  /-- The name after two dashes. -/
  name : String
  /-- The letter after one dash. -/
  letter : Option Char := none
  effect : Effect
  deriving DecidableEq, Repr, Inhabited

/-- The words of a command: its options, and the kind of its operand. -/
structure CommandSpec where
  options : List OptionSpec
  operand : Option ValueKind := none
  deriving DecidableEq, Repr, Inhabited

/-- What a value is for. -/
inductive Target where
  | option (name : String)
  | operand
  deriving DecidableEq, Repr, Inhabited

/-- Something that waits to be settled: a target with the value seen for it, if any. -/
structure Pending where
  target : Target
  kind : ValueKind
  value : Option String
  deriving DecidableEq, Repr, Inhabited

/-- What has been read so far. -/
structure Reading where
  settled : List (Target × String) := []
  pending : Option Pending := none
  /-- Whether a double dash has been read. -/
  valuesOnly : Bool := false
  deriving DecidableEq, Repr, Inhabited

namespace Reading

def get? (r : Reading) (t : Target) : Option String := r.settled.lookup t

def isGiven (r : Reading) (t : Target) : Bool := (r.get? t).isSome

/-- Takes the value that waits. -/
def settle (r : Reading) : Except UsageError Reading :=
  match r.pending with
  | none => .ok r
  | some p =>
    match p.value with
    | none => .error .badValue
    | some v =>
      if r.isGiven p.target then .error .repeatedOption
      else if p.kind.accepts v then
        .ok { r with settled := (p.target, v) :: r.settled, pending := none }
      else .error .badValue

/-- Starts to wait for a target, once what waits is settled. -/
def await (r : Reading) (p : Pending) : Except UsageError Reading := do
  return { ← r.settle with pending := some p }

/-- An option that takes no value. -/
def applyFlag (r : Reading) (o : OptionSpec) : Except UsageError Reading := do
  let r ← r.settle
  match o.effect with
  | .help => .error .displayHelp
  | .version => .error .displayVersion
  | _ =>
    if r.isGiven (.option o.name) then .error .repeatedOption
    else return { r with settled := (.option o.name, "true") :: r.settled }

/-- An option that takes a value, with the value that is attached to it. -/
def applyValued (r : Reading) (o : OptionSpec) (kind : ValueKind) (attached : Option String) :
    Except UsageError Reading := do
  let r ← r.await ⟨.option o.name, kind, attached⟩
  if attached.isSome then r.settle else return r

/-- A word such as `--name` or `--name=value`. -/
def readLong (spec : CommandSpec) (r : Reading) (name : String) (attached : Option String) :
    Except UsageError Reading :=
  match spec.options.find? (·.name == name) with
  | none => .error .unknownOption
  | some o =>
    match o.effect, attached with
    | .value kind, _ => r.applyValued o kind attached
    | _, none => r.applyFlag o
    | _, some _ => .error .needlessValue

/-- The value that follows a letter in one word: `-fvalue` or `-f=value`. -/
def attachedValue? : List Char → Option String
  | [] => none
  | '=' :: rest => some (String.ofList rest)
  | rest => some (String.ofList rest)

/-- A word of letters such as `-vf`. -/
def readLetters (spec : CommandSpec) (r : Reading) : List Char → Except UsageError Reading
  | [] => .ok r
  | c :: rest =>
    match spec.options.find? (·.letter == some c) with
    | none => .error .unknownOption
    | some o =>
      match o.effect with
      | .value kind => r.applyValued o kind (attachedValue? rest)
      | _ => do readLetters spec (← r.applyFlag o) rest

/-- A word that is the command's operand. -/
def readOperand (spec : CommandSpec) (r : Reading) (word : String) : Except UsageError Reading :=
  match spec.operand with
  | none => .error .unknownCommand
  | some kind =>
    let given := r.isGiven .operand ||
      match r.pending with
      | some p => p.target == .operand
      | none => false
    if given then .error .unknownOption else r.await ⟨.operand, kind, some word⟩

/-- A word that is a value. -/
def readValue (spec : CommandSpec) (r : Reading) (word : String) : Except UsageError Reading :=
  match r.pending with
  | some p =>
    if p.value.isNone && !r.valuesOnly then
      .ok { r with pending := some { p with value := some word } }
    else r.readOperand spec word
  | none => r.readOperand spec word

/-- A name and what follows its first equals sign. -/
def cutAtEquals (cs : List Char) : String × Option String :=
  match cs.span (· != '=') with
  | (name, []) => (String.ofList name, none)
  | (name, _ :: value) => (String.ofList name, some (String.ofList value))

/-- Reads one word. -/
def readWord (spec : CommandSpec) (r : Reading) (word : String) : Except UsageError Reading :=
  if r.valuesOnly then r.readValue spec word
  else
    match word.toList with
    | ['-', '-'] => .ok { r with valuesOnly := true }
    | '-' :: '-' :: rest => r.readLong spec (cutAtEquals rest).1 (cutAtEquals rest).2
    | '-' :: c :: rest => r.readLetters spec (c :: rest)
    | _ => r.readValue spec word

end Reading

end RouteContract.CommandLine
