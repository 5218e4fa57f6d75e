/-!
# Sets of characters

Sets built from ranges with the operations on sets.
-/

namespace InterfaceManager.Text

inductive CharSet where
  | none
  /-- The characters from `first` up to `last`. -/
  | range (first last : Char)
  | union (a b : CharSet)
  | inter (a b : CharSet)
  | compl (a : CharSet)
  deriving DecidableEq, Repr

namespace CharSet

/-- Whether a character belongs to a set. -/
def contains : CharSet → Char → Bool
  | none, _ => false
  | range first last, c => first ≤ c && c ≤ last
  | union a b, c => a.contains c || b.contains c
  | inter a b, c => a.contains c && b.contains c
  | compl a, c => !a.contains c

def single (c : Char) : CharSet := range c c

def all : CharSet := compl none

/-- The set of the characters in any of several ranges. -/
def ofRanges (ranges : List (Char × Char)) : CharSet :=
  ranges.foldr (fun r s => union (range r.1 r.2) s) none

/-- The characters of `a` that are not in `b`. -/
def diff (a b : CharSet) : CharSet := inter a (compl b)

/-- The characters of exactly one of two sets. -/
def symmDiff (a b : CharSet) : CharSet := union (diff a b) (diff b a)

def complementIf (negated : Bool) (a : CharSet) : CharSet :=
  if negated then compl a else a

end CharSet

end InterfaceManager.Text
