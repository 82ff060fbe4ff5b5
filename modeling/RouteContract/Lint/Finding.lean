/-!
What linting can object to. A finding names the rule and the place; its message is prefixed by the
name of the linted document.
-/

namespace RouteContract.Lint

/-- An operation, or one of its responses. -/
inductive Place where
  | operation (method path : String)
  | response (method path status : String)
  deriving DecidableEq, Repr

def Place.text : Place → String
  | operation method path => method ++ " " ++ path
  | response method path status => method ++ " " ++ path ++ " response " ++ status

inductive Finding where
  | missingVersion
  | wrongVersion (expected found : String)
  | noPaths
  | unversionedPath (path : String)
  | genericPath (path : String)
  | securityMissing (place : Place)
  | schemeMissing (place : Place)
  | noResponses (place : Place)
  | statusMissing (status : String) (place : Place)
  | contentMissing (place : Place)
  | schemaMissing (place : Place) (mediaType : String)
  | undescribed (property schema : String)
  deriving DecidableEq, Repr

/-- The finding without the name of the document. -/
def Finding.text : Finding → String
  | missingVersion => "missing 'openapi' version field"
  | wrongVersion expected found =>
    "OpenAPI version must be " ++ expected ++ ", found '" ++ found ++ "'"
  | noPaths => "at least one path is required"
  | unversionedPath path => "path '" ++ path ++ "' must include version (e.g., /v1/)"
  | genericPath path => "path '" ++ path ++ "' is too generic"
  | securityMissing place => "security required for '" ++ place.text ++ "'"
  | schemeMissing place => "JwtBearer or OAuth2 required for '" ++ place.text ++ "'"
  | noResponses place => "at least one response required for '" ++ place.text ++ "'"
  | statusMissing status place =>
    "response " ++ status ++ " is required for '" ++ place.text ++ "'"
  | contentMissing place => "content required for " ++ place.text
  | schemaMissing place mediaType =>
    "schema required for " ++ place.text ++ " (" ++ mediaType ++ ")"
  | undescribed property schema =>
    "sensitive field '" ++ property ++ "' in schema '" ++ schema ++ "' must include description"

/-- The message of a finding in the document of the given name. -/
def Finding.message (source : String) (f : Finding) : String :=
  source ++ ": " ++ f.text

end RouteContract.Lint
