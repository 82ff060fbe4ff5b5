import RouteContract.Fragment
import RouteContract.Lint.Finding

/-!
The rules a contract must keep: the format version, versioned and specific paths, security and
responses of every operation, schemas of every content, and descriptions of sensitive properties.
No rule hides the findings of another, except that a document without a version is not looked at
further.
-/

namespace RouteContract.Lint

/-- The lists that tune the rules. -/
structure Options where
  /-- Statuses that every operation must declare. -/
  requiredStatuses : List String := []
  /-- Property names that need a description, in any letter case. -/
  sensitiveNames : List String := []
  /-- Path segments after the version that make a path too generic, in any letter case. -/
  genericSegments : List String := []
  deriving DecidableEq, Repr, Inhabited

/-- Options that fit what the generator writes. -/
def Options.recommended : Options where
  requiredStatuses := ["400", "401", "500"]
  sensitiveNames := ["password", "secret", "token"]
  genericSegments := ["data", "object", "resource"]

/-- The keys of a path item that hold operations, in the order in which they are looked at. -/
def methodKeys : List String :=
  ["get", "post", "put", "patch", "delete", "options", "head"]

/-- The schemes of which a security requirement must name one. -/
def acceptedSchemes : List String :=
  ["JwtBearer", "OAuth2"]

/-- The letter v and one or more digits. -/
def isVersionSegment (segment : String) : Bool :=
  match segment.toList with
  | c :: rest => (c == 'v' || c == 'V') && !rest.isEmpty && rest.all Char.isDigit
  | [] => false

/-- A segment that stands for a parameter. -/
def isPlaceholder (segment : String) : Bool :=
  segment.toList.head?.any (·.toNat == 0x7b) && segment.toList.getLast?.any (·.toNat == 0x7d)

def segments (path : String) : List String :=
  (Text.split '/' path).filter fun s => !s.isEmpty

/-- The segments after the first version segment; none if there is no such segment. -/
def afterVersion? (path : String) : Option (List String) :=
  match (segments path).dropWhile fun s => !isVersionSegment s with
  | [] => none
  | _ :: rest => some rest

/-- Only parameters, or a segment that says nothing; a path that ends with its version is not
too generic. -/
def Options.isTooGeneric (o : Options) (rest : List String) : Bool :=
  !rest.isEmpty && (rest.all isPlaceholder ||
    rest.any fun s => o.genericSegments.any (Text.sameIgnoringCase · s))

def Options.pathFindings (o : Options) (path : String) : List Finding :=
  match afterVersion? path with
  | none => [.unversionedPath path]
  | some rest => if o.isTooGeneric rest then [.genericPath path] else []

/-- Whether a security requirement names an accepted scheme. -/
def isAccepted (requirement : Json) : Bool :=
  acceptedSchemes.any fun scheme => (requirement.get? scheme).isSome

def securityFindings (place : Place) (operation : Json) : List Finding :=
  match (operation.get? "security").bind Json.asArray? with
  | some requirements =>
    if requirements.isEmpty || requirements.any isAccepted then [] else [.schemeMissing place]
  | none => [.securityMissing place]

/-- The members of `responses`, if that is an object. -/
def responsesOf (operation : Json) : List (String × Json) :=
  ((operation.get? "responses").bind Json.asObject?).getD []

def Options.statusFindings (o : Options) (place : Place) (operation : Json) : List Finding :=
  let responses := responsesOf operation
  if responses.isEmpty then [.noResponses place]
  else (o.requiredStatuses.filter fun s => (responses.lookup s).isNone).map
    fun s => .statusMissing s place

/-- Findings about the `content` of a request body or response. -/
def contentFindings (place : Place) (container : Json) : List Finding :=
  match (container.get? "content").bind Json.asObject? with
  | none => [.contentMissing place]
  | some content =>
    (content.filter fun (_, media) => media.isObject && (media.get? "schema").isNone).map
      fun (mediaType, _) => .schemaMissing place mediaType

def bodyFindings (place : Place) (operation : Json) : List Finding :=
  match operation.get? "requestBody" with
  | some body => if body.isObject then contentFindings place body else []
  | none => []

/-- References and values that are no objects are not looked into. -/
def responseFindings (method path : String) (response : String × Json) : List Finding :=
  if response.2.isObject && (response.2.get? "$ref").isNone then
    contentFindings (.response method path response.1) response.2
  else []

def Options.operationFindings (o : Options) (method path : String) (operation : Json) :
    List Finding :=
  let place := Place.operation method path
  securityFindings place operation ++ o.statusFindings place operation ++
    bodyFindings place operation ++ (responsesOf operation).flatMap (responseFindings method path)

/-- Findings about the operations of a path item. -/
def Options.itemFindings (o : Options) (path : String) (item : Json) : List Finding :=
  methodKeys.flatMap fun method =>
    match item.get? method with
    | some operation => if operation.isObject then o.operationFindings method path operation else []
    | none => []

/-- Whether a property has a description that is not blank. -/
def isDescribed (property : Json) : Bool :=
  ((property.get? "description").bind Json.asText?).any fun d => !Text.isBlankText d

/-- The properties of a component schema that are sensitive and not described. -/
def Options.schemaFindings (o : Options) (schema : String × Json) : List Finding :=
  let properties := ((schema.2.get? "properties").bind Json.asObject?).getD []
  (properties.filter fun (name, property) =>
      o.sensitiveNames.any (Text.sameIgnoringCase · name) && !isDescribed property).map
    fun (name, _) => .undescribed name schema.1

/-- The component schemas of a document. -/
def schemasOf (root : Json) : List (String × Json) :=
  (((root.get? "components").bind (·.get? "schemas")).bind Json.asObject?).getD []

def versionFindings (version : Json) : List Finding :=
  let text := version.asText?.getD version.compact
  if text == formatVersion then [] else [.wrongVersion formatVersion text]

def Options.pathsFindings (o : Options) (root : Json) (requirePaths : Bool) : List Finding :=
  let paths := ((root.get? "paths").bind Json.asObject?).getD []
  if paths.isEmpty then if requirePaths then [.noPaths] else []
  else paths.flatMap fun (path, item) => o.pathFindings path ++ o.itemFindings path item

/-- Everything the rules object to in a document. -/
def Options.findings (o : Options) (root : Json) (requirePaths : Bool) : List Finding :=
  match root.get? "openapi" with
  | none => [.missingVersion]
  | some version =>
    versionFindings version ++ o.pathsFindings root requirePaths ++
      (schemasOf root).flatMap o.schemaFindings

/-- The messages for everything the rules object to in the document named `source`. -/
def Options.lint (o : Options) (source : String) (root : Json) (requirePaths : Bool) :
    List String :=
  (o.findings root requirePaths).map (Finding.message source)

/-- What is said about a linted document: how many errors it has, if any. -/
def notice (source : String) (errors : List String) : List String :=
  if errors.isEmpty then [] else [toString errors.length ++ " lint error(s) in " ++ source]

end RouteContract.Lint
