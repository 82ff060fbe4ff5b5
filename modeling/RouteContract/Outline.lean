/-!
How far a reader looks into a structured value. An outline moves from a state to a state along the
members and items of a value; what it does not lead to is skipped, and nothing is asked of it but
that it ends where it should.
-/

namespace RouteContract

structure Outline (σ : Type) where
  /-- What a member leads to, by its name. -/
  member : σ → String → Option σ
  /-- What an item leads to, by its position. -/
  item : σ → Nat → Option σ

/-- The outline that leads everywhere. -/
def Outline.whole : Outline Unit where
  member _ _ := some ()
  item _ _ := some ()

end RouteContract
