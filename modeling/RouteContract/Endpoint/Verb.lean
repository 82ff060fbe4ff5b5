import RouteContract.Text.Basic

/-!
The HTTP verbs that an endpoint can be registered under.
-/

namespace RouteContract

inductive Verb where
  | delete
  | get
  | head
  | options
  | patch
  | post
  | put
  deriving DecidableEq, Repr, Inhabited

namespace Verb

def all : List Verb := [delete, get, head, options, patch, post, put]

def name : Verb → String
  | delete => "DELETE"
  | get => "GET"
  | head => "HEAD"
  | options => "OPTIONS"
  | patch => "PATCH"
  | post => "POST"
  | put => "PUT"

/-- The verb of a name in any letter case. -/
def ofName? (name : String) : Option Verb :=
  all.find? fun v => Text.sameIgnoringCase v.name name

/-- The key of an operation under its path. -/
def key : Verb → String
  | delete => "delete"
  | get => "get"
  | head => "head"
  | options => "options"
  | patch => "patch"
  | post => "post"
  | put => "put"

/-- The word that opens a summary. -/
def action : Verb → String
  | delete => "Delete"
  | get => "Get"
  | head => "HEAD"
  | options => "OPTIONS"
  | patch => "Patch"
  | post => "Create"
  | put => "Update"

/-- Whether a request with this verb has a body. -/
def hasBody : Verb → Bool
  | post | put | patch => true
  | _ => false

end Verb

end RouteContract
