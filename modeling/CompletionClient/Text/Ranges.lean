/-!
# Sets of code points as ranges

A character property from the Unicode database is carried as a list of closed
ranges of code points, ascending and apart.  `Ranges.contains` is the lookup;
`Ranges.WellFormed` and `Ranges.count` let a table be checked by `decide`.
-/

namespace CompletionClient

/-- Closed ranges of code points. -/
abbrev Ranges := List (Nat × Nat)

namespace Ranges

/-- Whether the code point `n` lies in one of the ranges. -/
def contains (rs : Ranges) (n : Nat) : Bool :=
  rs.any fun r => r.1 ≤ n && n ≤ r.2

/-- The ranges are ascending, non-empty and separated by at least one code point. -/
def WellFormed : Ranges → Bool
  | [] => true
  | [r] => r.1 ≤ r.2
  | r :: s :: t => r.1 ≤ r.2 && r.2 + 1 < s.1 && WellFormed (s :: t)

/-- The number of code points in the ranges. -/
def count (rs : Ranges) : Nat := rs.foldr (fun r n => r.2 + 1 - r.1 + n) 0

end Ranges

end CompletionClient
