import RouteContract.Json.Printer

/-!
Why reading or composing a contract can fail, and the message for each reason.
-/

namespace RouteContract

inductive ContractError where
  /-- The operating system refused; `reason` is its own text. -/
  | io (reason : String)
  | malformed (file : String)
  | rootNotMapping (file : String)
  | resourceNotFound (path resource : String)
  | emptyResource (origin : String)
  | tooFewShared (found : Nat)
  | duplicatePath (path fragment : String)
  | conflictingComponent (group key : String) (existing incoming : Json)
  | invalid (messages : List String)
  | notLoaded
  | badConfiguration
  deriving Inhabited

namespace ContractError

def message : ContractError → String
  | io reason => "IO error: " ++ reason
  | malformed file => "parse error in " ++ file
  | rootNotMapping file => "parse error in " ++ file ++ ": document root must be a mapping"
  | resourceNotFound path resource =>
    "OpenAPI resource '" ++ path ++ "' not found. Expected resource name: '" ++ resource ++ "'"
  | emptyResource origin => "OpenAPI resource '" ++ origin ++ "' is empty"
  | tooFewShared found =>
    "at least three common OpenAPI fragments are required (schemas, responses, security), found " ++
      toString found
  | duplicatePath path fragment => "duplicate path '" ++ path ++ "' from " ++ fragment
  | conflictingComponent group key existing incoming =>
    "conflicting component '" ++ group ++ "." ++ key ++ "'. Existing: " ++ existing.compact ++
      ", Incoming: " ++ incoming.compact
  | invalid messages => "OpenAPI validation failed. " ++ " | ".intercalate messages
  | notLoaded => "OpenAPI document has not been loaded yet"
  | badConfiguration => "configuration error: invalid compose configuration"

end ContractError

end RouteContract
