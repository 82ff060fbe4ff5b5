import RouteContract.CommandLine.Usage
import RouteContract.Source.Index

/-!
The commands of the tool and how they are read from words.
-/

namespace RouteContract.CommandLine

/-- How the fragment of a service is written. -/
inductive FragmentFormat where
  | yaml
  | json
  /-- Source text to be compiled into the service. -/
  | source
  deriving DecidableEq, Repr, Inhabited

namespace FragmentFormat

def words : List String := ["yaml", "json", "rust"]

def ofWord : String → FragmentFormat
  | "json" => json
  | "rust" => source
  | _ => yaml

end FragmentFormat

/-- How a composed contract is written. -/
inductive ContractFormat where
  | yaml
  | json
  deriving DecidableEq, Repr, Inhabited

namespace ContractFormat

def words : List String := ["yaml", "json"]

def ofWord : String → ContractFormat
  | "json" => json
  | _ => yaml

end ContractFormat

/-- Describe the endpoints of a service. -/
structure Generate where
  project : String
  format : FragmentFormat := .yaml
  /-- The file to write; without one the fragment is printed. -/
  output : Option String := none
  /-- Without a title the name of the project's directory is used. -/
  title : Option String := none
  version : String := "1.0.0"
  builderTrait : String := Source.Index.defaultBuilderTrait
  deriving DecidableEq, Repr, Inhabited

/-- Merge and lint the fragments of a configuration. -/
structure Compose where
  config : String
  format : ContractFormat := .yaml
  output : Option String := none
  deriving DecidableEq, Repr, Inhabited

/-- Lint one document. -/
structure LintFile where
  file : String
  /-- A configuration whose lint rules are used. -/
  config : Option String := none
  allowEmptyPaths : Bool := false
  deriving DecidableEq, Repr, Inhabited

inductive Command where
  | generate (options : Generate)
  | compose (options : Compose)
  | lint (options : LintFile)
  deriving DecidableEq, Repr, Inhabited

/-- A command with what is asked of every command. -/
structure Invocation where
  command : Command
  verbose : Bool := false
  deriving DecidableEq, Repr, Inhabited

def verboseOption : OptionSpec := ⟨"verbose", some 'v', .flag⟩
def helpOption : OptionSpec := ⟨"help", some 'h', .help⟩
def versionOption : OptionSpec := ⟨"version", some 'V', .version⟩

/-- What may stand before a command. -/
def topSpec : CommandSpec := { options := [verboseOption, helpOption, versionOption] }

inductive CommandName where
  | generate
  | compose
  | lint
  deriving DecidableEq, Repr, Inhabited

namespace CommandName

def ofWord? : String → Option CommandName
  | "generate" => some generate
  | "compose" => some compose
  | "lint" => some lint
  | _ => none

def formatOption (words : List String) : OptionSpec :=
  ⟨"format", some 'f', .value (.choice words)⟩

def outputOption : OptionSpec := ⟨"output", some 'o', .value .path⟩

def ownOptions : CommandName → List OptionSpec
  | generate =>
    [formatOption FragmentFormat.words, outputOption, ⟨"title", none, .value .text⟩,
      ⟨"api-version", none, .value .text⟩, ⟨"builder-trait", none, .value .text⟩]
  | compose => [formatOption ContractFormat.words, outputOption]
  | lint => [⟨"config", none, .value .path⟩, ⟨"allow-empty-paths", none, .flag⟩]

def spec (n : CommandName) : CommandSpec where
  options := n.ownOptions ++ [verboseOption, helpOption]
  operand := some .path

/-- The command of its operand and the options that have been read. -/
def command (n : CommandName) (operand : String) (r : Reading) : Command :=
  let value (name : String) := r.get? (.option name)
  match n with
  | generate => .generate {
      project := operand
      format := ((value "format").map FragmentFormat.ofWord).getD .yaml
      output := value "output"
      title := value "title"
      version := (value "api-version").getD "1.0.0"
      builderTrait := (value "builder-trait").getD Source.Index.defaultBuilderTrait }
  | compose => .compose {
      config := operand
      format := ((value "format").map ContractFormat.ofWord).getD .yaml
      output := value "output" }
  | lint => .lint {
      file := operand
      config := value "config"
      allowEmptyPaths := (value "allow-empty-paths").isSome }

end CommandName

def isVerbose (r : Reading) : Bool := r.isGiven (.option verboseOption.name)

/-- Reads the words after the name of a command. -/
def readCommand (n : CommandName) (words : List String) :
    Except UsageError (Command × Reading) := do
  let r ← (← words.foldlM (Reading.readWord n.spec) {}).settle
  match r.get? .operand with
  | some operand => return (n.command operand r, r)
  | none => .error .missingOperand

/-- Asking for help, on the tool or on one of its commands. -/
def readHelp : List String → UsageError
  | [] => .displayHelp
  | [word] =>
    if word == "help" || (CommandName.ofWord? word).isSome then .displayHelp else .unknownCommand
  | _ => .unknownCommand

/-- Reads the words before and after the name of a command. -/
def readFrom (r : Reading) : List String → Except UsageError Invocation
  | [] => .error (if r.settled.isEmpty then .nothingGiven else .missingCommand)
  | word :: rest =>
    if r.valuesOnly then
      .error (if word == "help" || (CommandName.ofWord? word).isSome then .unknownOption
        else .unknownCommand)
    else if word == "help" then .error (readHelp rest)
    else
      match CommandName.ofWord? word with
      | some n => do
        let (command, own) ← readCommand n rest
        return ⟨command, isVerbose r || isVerbose own⟩
      | none => do readFrom (← r.readWord topSpec word) rest

/-- The invocation that words ask for. -/
def parse (words : List String) : Except UsageError Invocation :=
  readFrom {} words

end RouteContract.CommandLine
