/-!
# Ranges of code points

A property of code points given as a table of inclusive ranges in increasing
order, searched by halving.
-/

namespace InterfaceManager.Text

/-- Inclusive ranges in increasing order. -/
abbrev Ranges := Array (Nat × Nat)

namespace Ranges

/-- Whether `n` lies in one of the ranges between the positions `low` and
`high`. -/
def coversBetween (table : Ranges) (n : Nat) : Nat → Nat → Nat → Bool
  | 0, _, _ => false
  | fuel + 1, low, high =>
    if low < high then
      let middle := (low + high) / 2
      match table[middle]? with
      | none => false
      | some (first, last) =>
        if n < first then coversBetween table n fuel low middle
        else if last < n then coversBetween table n fuel (middle + 1) high
        else true
    else false

def covers (table : Ranges) (n : Nat) : Bool :=
  coversBetween table n table.size 0 table.size

end Ranges

end InterfaceManager.Text
