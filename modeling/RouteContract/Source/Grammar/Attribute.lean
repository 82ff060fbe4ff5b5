import RouteContract.Source.Grammar

/-!
Attributes. Their arguments are read in two ways: as expressions with commas between them, and as
settings that each have a name.
-/

namespace RouteContract.Source.Grammar

open Rule

/-- A path of names only, as one text. -/
def plainPath : Rule String := do
  let rooted ← tryMarks "::"
  let first ← segment
  let names ← loop (fun (acc : String) => do
    if ← tryMarks "::" then return some (acc ++ "::" ++ (← segment)) else return none) first
  return if rooted then "::" ++ names else names
where
  segment : Rule String := do
    require fun ts => isName ts || isPathWord ts
    return (← word).1

/-- Expressions with commas between them up to the end. -/
def expressions (g : Grammar) : Rule (List Expr) :=
  separated do return (← g.expr true).code

/-- The expressions between commas, if the trees are a list of them. -/
def expressions? (g : Grammar) (ts : List Tree) : Option (List Expr) :=
  readAll g.expressions ts

/-- The name of a setting; any word will do. -/
def settingName : Rule String := do
  let rooted ← tryMarks "::"
  let names ← loop (fun (acc : String) => do
    if ← tryMarks "::" then return some (acc ++ "::" ++ (← word).1) else return none) (← word).1
  return if rooted then "::" ++ names else names

/-- Skips the value of a setting that is not known: an expression, or settings in parentheses,
nested at most as deep as the fuel allows. -/
def skipSetting (g : Grammar) : Nat → Rule Unit
  | 0 => failure
  | fuel + 1 => do
    if ← tryMarks "=" then
      let _ ← g.expr true
    else if ← peek (isGroup .paren) then
      inside .paren do
        require (!·.isEmpty)
        let _ ← separated do
          let _ ← settingName
          skipSetting g fuel

def textLiteral : Rule String := do
  match ← rest with
  | .literal (.text s) :: _ =>
    skip 1
    return s
  | _ => failure

/-- What one step of reading settings yields: the settings found, and whether to go on. -/
structure SettingStep where
  found : List Setting
  fine : Bool

/-- One setting after its name. A setting counts from where its name is known, even if what
follows is malformed. -/
def setting (g : Grammar) (name : String) : Rule SettingStep := do
  let valued ← peek (isMarks "=")
  if (name == "rename" || name == "rename_all") && valued then
    skip 1
    match ← attempt textLiteral with
    | some s => return ⟨[if name == "rename" then .rename s else .renameAll s], true⟩
    | none => return ⟨[], false⟩
  else if name == "skip" then return ⟨[.skip], true⟩
  else if name == "flatten" then return ⟨[.flatten], true⟩
  else if name == "default" then
    if valued then
      skip 1
      return ⟨[.default], (← attempt (g.expr true)).isSome⟩
    else return ⟨[.default], true⟩
  else
    let fuel := treesSize (← rest) + 1
    return ⟨[], (← attempt (g.skipSetting fuel)).isSome⟩

/-- The settings of a list in order, up to the first malformed one. -/
def settingsWithin (g : Grammar) : Nat → Rule (List Setting)
  | 0 => return []
  | fuel + 1 => do
    if ← atEnd then return []
    match ← attempt settingName with
    | none => return []
    | some name =>
      let step ← g.setting name
      if step.fine && (← tryMarks ",") then return step.found ++ (← settingsWithin g fuel)
      else return step.found

def settings (g : Grammar) (ts : List Tree) : List Setting :=
  match settingsWithin g (ts.length + 1) { rest := ts } with
  | some (found, _) => found
  | none => []

/-- The content of an attribute: a path, perhaps with a group or a value. -/
def attributeBody (g : Grammar) : Rule (Attribute Expr) := do
  let path ← (do
    if ← tryWord "unsafe" then return "unsafe" else plainPath)
  let name := if path.toList.contains ':' then none else some path
  let ts ← rest
  if isGroup .paren ts || isGroup .bracket ts || isGroup .brace ts then
    let (inner, _) ← anyGroup
    let settings := if path == "serde" then g.settings inner else []
    return { name, arguments := (g.expressions? inner).getD [], settings }
  else if ← tryMarks "=" then
    require fun ts => !(isMarks "#" ts && isGroup .bracket (ts.drop 1))
    let value ← g.expr true
    embed value.code
    return { name, value := some value.code }
  else return { name }

/-- The attributes before a construct. -/
def attributes (g : Grammar) : Rule (List (Attribute Expr)) :=
  manyWhile (isMarks "#") do
    skip 1
    inside .bracket g.attributeBody

/-- The attributes inside a construct, at its start. -/
def innerAttributes (g : Grammar) : Rule (List (Attribute Expr)) :=
  manyWhile (fun ts => isMarks "#" ts && isMarks "!" (ts.drop 1)) do
    skip 2
    inside .bracket g.attributeBody

end RouteContract.Source.Grammar
