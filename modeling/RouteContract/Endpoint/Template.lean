import RouteContract.Text.Basic

/-!
Path templates. A segment in braces is a placeholder; what follows a colon in it constrains the
parameter and is not part of its name.
-/

namespace RouteContract.Template

/-- The name of the parameter that a segment stands for. -/
def placeholder? (segment : String) : Option String := do
  let inner ← Text.dropTail? "\x7d" (← Text.dropLead? "\x7b" segment)
  let name := String.ofList (inner.toList.takeWhile (· != ':'))
  if name.isEmpty then none else some name

/-- The segments between slashes. -/
def segments (path : String) : List String := Text.split '/' path

/-- The names of the parameters of a path, in order. -/
def parameters (path : String) : List String :=
  (segments path).filterMap placeholder?

end RouteContract.Template
