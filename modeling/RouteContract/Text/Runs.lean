/-!
Sets of code points given by the boundaries of their runs. The tables of the other text
modules are written this way: a boundary list `[a, b, c, d]` stands for the code points from
`a` up to but not including `b`, and from `c` up to but not including `d`.
-/

namespace RouteContract.Text

/-- Whether `n` lies in one of the runs whose boundaries are listed in increasing order. -/
def inRuns (n : Nat) : List Nat → Bool
  | [] => false
  | [lo] => lo ≤ n
  | lo :: hi :: rest => if n < lo then false else n < hi || inRuns n rest

end RouteContract.Text
