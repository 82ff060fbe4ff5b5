import RouteContract.CommandLine.Command
import RouteContract.Config
import RouteContract.Document.Build
import RouteContract.Document.SourceText
import RouteContract.Output
import RouteContract.Project
import RouteContract.Provider

/-!
Running a command over the files around it. A run answers how it ended, what it prints, and the
warnings it gives on the way.
-/

namespace RouteContract.CommandLine

open Files (Access)

/-- What a run has said so far. -/
structure Log where
  output : String := ""
  warnings : List String := []
  deriving DecidableEq, Repr, Inhabited

/-- A run that may fail. -/
abbrev Run (m : Type → Type) := ExceptT Failure (StateT Log m)

variable {m : Type → Type} [Monad m] [Access m]

namespace Run

def warn (messages : List String) : Run m Unit :=
  modify fun log => { log with warnings := log.warnings ++ messages }

/-- Prints a text as a line. -/
def printLine (text : String) : Run m Unit :=
  modify fun log => { log with output := log.output ++ text ++ "\n" }

/-- Goes on with the answer of a step that may fail. -/
def expect {α : Type} (step : m (Except Failure α)) : Run m α := do
  match ← (liftM step : Run m (Except Failure α)) with
  | .ok a => return a
  | .error failure => throw failure

/-- Writes a text to a file, or prints it if there is none. -/
def emit (output : Option String) (text : String) : Run m Unit :=
  match output with
  | some path => expect (Output.write path text)
  | none => printLine text

/-- Reads a configuration. -/
def loadConfig (path : String) : Run m Config := do
  match ← (Config.load path : m (Except ContractError Config)) with
  | .ok config => return config
  | .error cause => throw (.badConfiguration path cause)

end Run

namespace Generate

def render (format : FragmentFormat) (g : Generated) : String :=
  match format with
  | .yaml => Yaml.render g.document.toJson
  | .json => g.document.toJson.pretty
  | .source => SourceText.render g.document.toJson g.endpoints

def run (o : Generate) : Run m Unit := do
  let title ← match o.title with
    | some title => pure title
    | none => (Project.title o.project : m String)
  let answers ← Run.expect (Project.read o.project)
  Run.warn (Project.warnings answers)
  let files := Project.parsed answers
  if files.isEmpty then throw (.noSources o.project)
  let index := Source.Index.ofFiles files o.builderTrait
  match Generated.ofFiles index { title, version := o.version } files with
  | .error reason => throw (.broken reason)
  | .ok generated =>
    Run.warn generated.warnings
    if generated.endpoints.isEmpty then
      Run.warn ["No route registrations found on '" ++ o.builderTrait ++ "'"]
    Run.emit o.output (render o.format generated)

end Generate

namespace Compose

def render (format : ContractFormat) (c : Composed) : String :=
  match format with
  | .yaml => c.yaml
  | .json => c.json

def run (o : Compose) : Run m Unit := do
  let config ← Run.loadConfig o.config
  let composer : Composer := ⟨config.info, config.lint⟩
  let load {α : Type} (step : m (Except ContractError α)) : Run m α :=
    Run.expect do return (← step).mapError .contract
  let shared ← load (config.plan.loadShared (Directory.read config.baseDir))
  let partials ← load (config.plan.loadPartials (Directory.read config.baseDir))
  Run.warn (composer.notices shared partials)
  match composer.compose shared partials with
  | .error e => throw (.contract e)
  | .ok composed => Run.emit o.output (render o.format composed)

end Compose

namespace LintFile

def run (o : LintFile) : Run m Unit := do
  let options ← match o.config with
    | some path => do
      let config ← Run.loadConfig path
      pure config.lint
    | none => pure Lint.Options.recommended
  match ← (Access.readText o.file : m (Except Files.Reason String)) with
  | .error _ => throw (.unreadable o.file)
  | .ok text =>
    match Fragment.parse o.file o.file text with
    | .error e => throw (.contract e)
    | .ok fragment =>
      let errors := options.lint fragment.name fragment.root (!o.allowEmptyPaths)
      Run.warn (Lint.notice fragment.name errors ++ errors)
      if !errors.isEmpty then throw (.lintErrors errors.length o.file)

end LintFile

def Command.run : Command → Run m Unit
  | .generate o => o.run
  | .compose o => o.run
  | .lint o => o.run

/-- How a command ends and what it says. -/
structure Report where
  result : Except Failure Unit
  log : Log

/-- Runs a command. -/
def Command.report (c : Command) : m Report := do
  let (result, log) ← (c.run : Run m Unit).run.run {}
  return ⟨result, log⟩

/-- The name and version that the program answers with. -/
def versionLine : String := "openapi-from-routes 0.1.0"

/-- How a program ends. -/
structure Exit where
  output : String := ""
  /-- What it says besides its output, line by line. -/
  notes : List String := []
  status : Nat
  deriving DecidableEq, Repr, Inhabited

/-- A failure in words, with its cause. -/
def failureNotes (f : Failure) : List String :=
  ("Error: " ++ f.message) ::
    match f.cause? with
    | some cause => ["", "Caused by:", "    " ++ cause.message]
    | none => []

/-- A failed command exits with status 1; one that cannot follow a type breaks down. -/
def Report.exit (r : Report) : Exit :=
  match r.result with
  | .ok () => { output := r.log.output, notes := r.log.warnings, status := 0 }
  | .error failure =>
    { output := r.log.output
      notes := r.log.warnings ++ failureNotes failure
      status := match failure with
        | .broken _ => 101
        | _ => 1 }

/-- Words that are not a command exit with status 2, unless they ask for something to be shown. -/
def UsageError.exit : UsageError → Exit
  | displayHelp => { status := 0 }
  | displayVersion => { output := versionLine ++ "\n", status := 0 }
  | _ => { status := 2 }

/-- Runs the program that words ask for. -/
def runWords (words : List String) : m Exit := do
  match parse words with
  | .error e => return e.exit
  | .ok invocation => return (← invocation.command.report).exit

end RouteContract.CommandLine
