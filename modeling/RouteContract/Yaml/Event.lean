import RouteContract.Yaml.Token.Scanner

/-!
YAML events: the tokens of one document as a bracketed sequence of scalars and collections. A
collection that leaves out a key or a value has an empty plain scalar in its place.
-/

namespace RouteContract.Yaml

inductive Event where
  | alias (name : String)
  | scalar (anchor : Option String) (tag : Option Tag) (text : String) (plain : Bool)
  | sequenceStart (anchor : Option String) (tag : Option Tag)
  | sequenceEnd
  | mappingStart (anchor : Option String) (tag : Option Tag)
  | mappingEnd
  deriving DecidableEq, Repr, Inhabited

/-- The empty scalar that stands for something left out. -/
def Event.empty : Event := .scalar none none "" true

/-- Tokens still to read, events found so far, and the tag handles that are declared. -/
structure Reading where
  tokens : List Token
  events : Array Event := #[]
  handles : List (String × Tag) := []

namespace Reading

def emit (r : Reading) (e : Event) : Reading :=
  { r with events := r.events.push e }

def skip (r : Reading) : Reading :=
  { r with tokens := r.tokens.tail }

def peek (r : Reading) : Token :=
  r.tokens.headD .streamEnd

/-- The tag that a handle and suffix denote; none if the handle is not declared. -/
def resolveTag? (r : Reading) (handle : String) (suffix : Tag) : Option Tag :=
  if handle.isEmpty then some suffix
  else
    match r.handles.lookup handle with
    | some lead => some (lead.append suffix)
    | none =>
      if handle == "!" then some ((Tag.ofString "!").append suffix)
      else if handle == "!!" then some ((Tag.standard "").append suffix)
      else none

/-- An anchor and a tag before a node, in either order. -/
def properties (r : Reading) : Option (Option String × Option Tag × Reading) :=
  match r.tokens with
  | .anchor a :: .tag h s :: rest =>
    (r.resolveTag? h s).map fun t => (some a, some t, { r with tokens := rest })
  | .tag h s :: .anchor a :: rest =>
    (r.resolveTag? h s).map fun t => (some a, some t, { r with tokens := rest })
  | .anchor a :: rest => some (some a, none, { r with tokens := rest })
  | .tag h s :: rest => (r.resolveTag? h s).map fun t => (none, some t, { r with tokens := rest })
  | _ => some (none, none, r)

mutual

/-- One node. `block` allows block collections, and `indentless` a sequence whose entries stand
at the indentation of the mapping around it. -/
def node (block indentless : Bool) : Nat → Reading → Option Reading
  | 0, _ => none
  | fuel + 1, r =>
    match r.tokens with
    | .alias name :: rest => some ({ r with tokens := rest }.emit (.alias name))
    | _ => do
      let (anchor, tag, r) ← r.properties
      match r.peek with
      | .blockEntry =>
        if indentless then indentlessEntries fuel (r.emit (.sequenceStart anchor tag))
        else emptyNode anchor tag r
      | .scalar text plain => some (r.skip.emit (.scalar anchor tag text plain))
      | .flowSequenceStart => flowItems true fuel (r.skip.emit (.sequenceStart anchor tag))
      | .flowMappingStart => flowMembers true fuel (r.skip.emit (.mappingStart anchor tag))
      | .blockSequenceStart =>
        if block then blockEntries fuel (r.skip.emit (.sequenceStart anchor tag))
        else emptyNode anchor tag r
      | .blockMappingStart =>
        if block then blockMembers fuel (r.skip.emit (.mappingStart anchor tag))
        else emptyNode anchor tag r
      | _ => emptyNode anchor tag r

/-- A node of which only the properties are written. -/
def emptyNode (anchor : Option String) (tag : Option Tag) (r : Reading) : Option Reading :=
  if anchor.isSome || tag.isSome then some (r.emit (.scalar anchor tag "" true)) else none

def blockEntries : Nat → Reading → Option Reading
  | 0, _ => none
  | fuel + 1, r =>
    match r.peek with
    | .blockEntry =>
      let r := r.skip
      match r.peek with
      | .blockEntry | .blockEnd => blockEntries fuel (r.emit .empty)
      | _ => (node true false fuel r).bind (blockEntries fuel)
    | .blockEnd => some (r.skip.emit .sequenceEnd)
    | _ => none

def indentlessEntries : Nat → Reading → Option Reading
  | 0, _ => none
  | fuel + 1, r =>
    match r.peek with
    | .blockEntry =>
      let r := r.skip
      match r.peek with
      | .blockEntry | .key | .value | .blockEnd => indentlessEntries fuel (r.emit .empty)
      | _ => (node true false fuel r).bind (indentlessEntries fuel)
    | _ => some (r.emit .sequenceEnd)

def blockMembers : Nat → Reading → Option Reading
  | 0, _ => none
  | fuel + 1, r =>
    match r.peek with
    | .key =>
      let r := r.skip
      match r.peek with
      | .key | .value | .blockEnd => blockValue fuel (r.emit .empty)
      | _ => (node true true fuel r).bind (blockValue fuel)
    | .blockEnd => some (r.skip.emit .mappingEnd)
    | _ => none

def blockValue : Nat → Reading → Option Reading
  | 0, _ => none
  | fuel + 1, r =>
    match r.peek with
    | .value =>
      let r := r.skip
      match r.peek with
      | .key | .value | .blockEnd => blockMembers fuel (r.emit .empty)
      | _ => (node true true fuel r).bind (blockMembers fuel)
    | _ => blockMembers fuel (r.emit .empty)

def flowItems (first : Bool) : Nat → Reading → Option Reading
  | 0, _ => none
  | fuel + 1, r =>
    match r.peek with
    | .flowSequenceEnd => some (r.skip.emit .sequenceEnd)
    | t =>
      if !first && t != .flowEntry then none
      else
        let r := if first then r else r.skip
        match r.peek with
        | .key => flowPair fuel (r.skip.emit (.mappingStart none none))
        | .flowSequenceEnd => some (r.skip.emit .sequenceEnd)
        | _ => (node false false fuel r).bind (flowItems false fuel)

/-- A single pair that stands as an item of a flow sequence. -/
def flowPair : Nat → Reading → Option Reading
  | 0, _ => none
  | fuel + 1, r => do
    let r ← match r.peek with
      | .value | .flowEntry | .flowSequenceEnd => some (r.skip.emit .empty)
      | _ => node false false fuel r
    let r ← match r.peek with
      | .value =>
        match r.skip.peek with
        | .flowEntry | .flowSequenceEnd => some (r.skip.emit .empty)
        | _ => node false false fuel r.skip
      | _ => some (r.emit .empty)
    flowItems false fuel (r.emit .mappingEnd)

def flowMembers (first : Bool) : Nat → Reading → Option Reading
  | 0, _ => none
  | fuel + 1, r =>
    match r.peek with
    | .flowMappingEnd => some (r.skip.emit .mappingEnd)
    | t =>
      if !first && t != .flowEntry then none
      else
        let r := if first then r else r.skip
        match r.peek with
        | .key =>
          let r := r.skip
          match r.peek with
          | .value | .flowEntry | .flowMappingEnd => flowValue fuel (r.emit .empty)
          | _ => (node false false fuel r).bind (flowValue fuel)
        | .flowMappingEnd => some (r.skip.emit .mappingEnd)
        | _ => (node false false fuel r).bind fun r => flowMembers false fuel (r.emit .empty)

def flowValue : Nat → Reading → Option Reading
  | 0, _ => none
  | fuel + 1, r =>
    match r.peek with
    | .value =>
      let r := r.skip
      match r.peek with
      | .flowEntry | .flowMappingEnd => flowMembers false fuel (r.emit .empty)
      | _ => (node false false fuel r).bind (flowMembers false fuel)
    | _ => flowMembers false fuel (r.emit .empty)

end

/-- The directives before a document; the flag tells whether there was a version. -/
def directives (versioned : Bool) : List Token → List (String × Tag) →
    Option (List Token × List (String × Tag))
  | .versionDirective major minor :: rest, handles =>
    if versioned || major != 1 || (minor != 1 && minor != 2) then none
    else directives true rest handles
  | .tagDirective handle lead :: rest, handles =>
    if (handles.lookup handle).isSome then none
    else directives versioned rest ((handle, lead) :: handles)
  | tokens, handles => some (tokens, handles)

/-- The tokens after marks that end a document. -/
def skipDocumentEnds : List Token → List Token
  | .documentEnd :: rest => skipDocumentEnds rest
  | tokens => tokens

/-- The content of a document after its start mark. -/
def content (fuel : Nat) (r : Reading) : Option Reading :=
  match r.peek with
  | .versionDirective _ _ | .tagDirective _ _ | .documentStart | .documentEnd | .streamEnd =>
    some (r.emit .empty)
  | _ => node true false fuel r

end Reading

/-- The events of text that holds at most one document; none if the text is malformed or holds
more. Text without any document has no events. -/
def events? (s : String) : Option (Array Event) := do
  let tokens ← tokens? s
  let fuel := 2 * tokens.length + 2
  let r ← match tokens.headD .streamEnd with
    | .streamEnd => some { tokens }
    | .versionDirective _ _ | .tagDirective _ _ | .documentStart => do
      let (rest, handles) ← Reading.directives false tokens []
      match rest with
      | .documentStart :: rest => Reading.content fuel { tokens := rest, handles }
      | _ => none
    | _ => Reading.node true false fuel { tokens }
  match Reading.skipDocumentEnds r.tokens with
  | [.streamEnd] => some r.events
  | _ => none

end RouteContract.Yaml
