import InterfaceManager.Text.CharSet

/-!
# Patterns of texts

Regular expressions whose alternatives are ordered: an earlier alternative
is preferred to a later one, and a repetition prefers either more rounds or
fewer.  Among the occurrences of a pattern in a text the leftmost ones come
first, and of those the one that follows the preferred alternatives; that
occurrence is the one that counts.

The alternatives are followed side by side, in their order, one character at
a time.  When an alternative is complete, the ones after it are given up.
-/

namespace InterfaceManager.Text

/-- A condition on a place in a text. -/
inductive Assertion where
  | textStart
  | textEnd
  | lineStart
  | lineEnd
  /-- Between a letter of a word and another character. -/
  | wordBoundary
  | noWordBoundary
  | wordStart
  | wordEnd
  deriving DecidableEq, Repr

/-- A place in a text: the characters before and after it. -/
structure Place where
  before : Option Char
  after : Option Char
  deriving DecidableEq, Repr

/-- Whether a character is a letter of a word: an ASCII letter or digit, or
the underscore. -/
def isWordChar (c : Char) : Bool := c.isAlphanum || c == '_'

def Assertion.holdsAt (a : Assertion) (p : Place) : Bool :=
  let inBefore := p.before.any isWordChar
  let inAfter := p.after.any isWordChar
  match a with
  | textStart => p.before.isNone
  | textEnd => p.after.isNone
  | lineStart => p.before.all (· == '\n')
  | lineEnd => p.after.all (· == '\n')
  | wordBoundary => inBefore != inAfter
  | noWordBoundary => inBefore == inAfter
  | wordStart => !inBefore && inAfter
  | wordEnd => inBefore && !inAfter

inductive Pattern where
  | empty
  | set (s : CharSet)
  | check (a : Assertion)
  | seq (p q : Pattern)
  /-- One of two patterns, preferably the first. -/
  | either (p q : Pattern)
  /-- Any number of rounds, as many or as few as possible. -/
  | many (greedy : Bool) (p : Pattern)
  deriving DecidableEq, Repr

namespace Pattern

/-- At most one round. -/
def optional (greedy : Bool) (p : Pattern) : Pattern :=
  if greedy then either p empty else either empty p

/-- One or more rounds. -/
def repeated (greedy : Bool) (p : Pattern) : Pattern :=
  seq p (many greedy p)

/-- A pattern anywhere in a text, preferably early. -/
def anywhere (p : Pattern) : Pattern := seq (many false (set .all)) p

/-- How an alternative of a pattern starts: it is complete, or it takes a
character of a set and goes on with another pattern. -/
inductive Head where
  | complete
  | take (s : CharSet) (rest : Pattern)
  deriving DecidableEq, Repr

/-- One pattern after another, without needless parts. -/
def before (p q : Pattern) : Pattern := if p = empty then q else seq p q

/-- The starts of the alternatives of a pattern at a place, preferred ones
first.  A round that takes no character ends its repetition. -/
def heads (place : Place) : Pattern → List Head
  | empty => [.complete]
  | set s => [.take s empty]
  | check a => if a.holdsAt place then [.complete] else []
  | seq p q =>
    (heads place p).flatMap fun head =>
      match head with
      | .complete => heads place q
      | .take s rest => [.take s (rest.before q)]
  | either p q => heads place p ++ heads place q
  | many greedy p =>
    let rounds := (heads place p).map fun head =>
      match head with
      | .complete => .complete
      | .take s rest => .take s (rest.before (many greedy p))
    if greedy then rounds ++ [.complete] else .complete :: rounds

/-- What becomes of alternatives when a character is taken. -/
def remainders (c : Char) (heads : List Head) : List Pattern :=
  heads.filterMap fun head =>
    match head with
    | .take s rest => if s.contains c then some rest else none
    | .complete => none

/-- Whether, of several alternatives, the one that counts ends where the
text ends. -/
def endWithText (alternatives : List Pattern) (before : Option Char) :
    List Char → Bool
  | [] =>
    (alternatives.flatMap (heads ⟨before, none⟩)).contains .complete
  | c :: cs =>
    let unfinished := (alternatives.flatMap (heads ⟨before, c⟩)).takeWhile
      fun head => head ≠ .complete
    endWithText (remainders c unfinished).eraseDups c cs

/-- Whether the occurrence of a pattern that counts ends where the text
ends. -/
def endsText (p : Pattern) (text : String) : Bool :=
  endWithText [p.anywhere] none text.toList

end Pattern

end InterfaceManager.Text
