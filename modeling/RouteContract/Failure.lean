import RouteContract.Error
import RouteContract.Source.Alias

/-!
Why a command can fail. What goes wrong with a contract is told as it is, except while a
configuration is read: then it is the cause of a failure of its own.
-/

namespace RouteContract

inductive Failure where
  | unreadable (path : String)
  | badSyntax (path : String)
  | notDirectory (path : String)
  | noSources (path : String)
  | directoryNotMade (path : String)
  | notWritten (path : String)
  | badConfiguration (path : String) (cause : ContractError)
  | lintErrors (count : Nat) (source : String)
  | contract (error : ContractError)
  /-- A type of the sources cannot be followed. -/
  | broken (reason : Source.Breakdown)
  deriving Inhabited

namespace Failure

def message : Failure → String
  | unreadable path => "Failed to read file: " ++ path
  | badSyntax path => "Failed to parse Rust syntax in file: " ++ path
  | notDirectory path => "Project path is not a directory: " ++ path
  | noSources path => "No Rust files could be parsed under " ++ path
  | directoryNotMade path => "Failed to create directory: " ++ path
  | notWritten path => "Failed to write to file: " ++ path
  | badConfiguration path _ => "Failed to load configuration: " ++ path
  | lintErrors count source => toString count ++ " lint error(s) in " ++ source
  | contract error => error.message
  | broken (.rawName name) => name ++ " cannot be used as a type name"
  | broken .endless => "a type alias leads back to itself"

/-- The error below a failure. -/
def cause? : Failure → Option ContractError
  | badConfiguration _ cause => some cause
  | _ => none

end Failure

end RouteContract
