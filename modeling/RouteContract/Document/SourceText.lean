import RouteContract.Endpoint.Basic
import RouteContract.Text.Quoted
import RouteContract.Yaml.Printer

/-!
A document as source text that can be compiled into a service: its YAML text as a raw string, and
the verbs and paths of its endpoints. A raw string ends at a quote followed by as many `#` as it
was opened with, so it is opened with one more than follow any quote of the text.
-/

namespace RouteContract.SourceText

/-- The number of `#` at the start of a text. -/
def leadingHashes (cs : List Char) : Nat := (cs.takeWhile (· == '#')).length

/-- The length of the longest run of `#` directly after a quote. -/
def longestHashRun : List Char → Nat
  | [] => 0
  | c :: cs => if c == '"' then max (leadingHashes cs) (longestHashRun cs) else longestHashRun cs

/-- A text as a raw string. -/
def rawString (text : String) : String :=
  let hashes := String.ofList (List.replicate (longestHashRun text.toList + 1) '#')
  "r" ++ hashes ++ "\"" ++ text ++ "\"" ++ hashes

/-- The verbs of every path. -/
def verbsByPath (es : List Endpoint) : Table String (Table String Unit) :=
  es.foldl (fun (t : Table String (Table String Unit)) (e : Endpoint) =>
    t.insert e.path (Table.insert e.verb.name () ((t.lookup e.path).getD []))) []

/-- The paths and verbs of endpoints in order, each pair once. -/
def listing (es : List Endpoint) : List (String × String) :=
  (verbsByPath es).flatMap fun (path, verbs) => verbs.map fun (verb, _) => (path, verb)

def listingLine : String × String → String
  | (path, verb) => "    (" ++ Text.quoted verb ++ ", " ++ Text.quoted path ++ "),\n"

/-- The source text for a YAML text and the endpoints it describes. -/
def ofYaml (yaml : String) (es : List Endpoint) : String :=
  let pairs := listing es
  "// @generated by openapi-from-routes. Do not edit.\n\n" ++
  "pub const YAML: &str = " ++ rawString yaml ++ ";\n\n" ++
  "pub const ENDPOINT_COUNT: usize = " ++ toString pairs.length ++ ";\n\n" ++
  "pub const ENDPOINTS: &[(&str, &str)] = &[\n" ++
  String.join (pairs.map listingLine) ++ "];\n"

/-- The source text of a value. -/
def render (j : Json) (es : List Endpoint) : String := ofYaml (Yaml.render j) es

end RouteContract.SourceText
